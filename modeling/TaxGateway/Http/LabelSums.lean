import TaxGateway.Http.ReconciledTotals

/-!
Contract: what the item loop of the after-hook leaves under each tax label.

Owns:
- an item's amounts as numbers, and the items of one label;
- the loop's sums, which are the sums over the items of each label;
- when the loop returns: exactly when every designation is a label;
- the tax an accepted request declares under a label, which follows the rate it
  declares there.

Does not own: the errors the hook adds.
-/

namespace TaxGateway.Http

open TaxGateway.Php
open TaxGateway.Validation

namespace ProcessTransactionRequest

/-! ## The items of a label -/

/-- `$item['taxDesignationCode']`. -/
def designation (item : Key × Value) : String := taxType (fieldsOf item.2)

/-- `$itemTotalBeforeTax` as a number, zero where computing it throws. -/
def taxableOf (item : Key × Value) : ℚ :=
  (itemTotalBeforeTax (fieldsOf item.2)).toOption.getD 0

/-- `$itemCalculatedTax`: the tax on an item, rounded to cents. -/
def taxOf (providedTaxRates : Entries) (item : Key × Value) : ℚ :=
  roundTo 2 (taxableOf item * (numberOf providedTaxRates (designation item) / 100))

/-- The items that carry a label. -/
def itemsUnder (label : String) (items : Entries) : Entries :=
  items.filter fun item => designation item = label

theorem taxableOf_of_ok {item : Key × Value} {amount : ℚ}
    (computed : itemTotalBeforeTax (fieldsOf item.2) = .ok amount) :
    taxableOf item = amount := by
  simp [taxableOf, computed, Except.toOption]

theorem designation_of_mem {label : String} {items : Entries} {item : Key × Value}
    (member : item ∈ itemsUnder label items) : designation item = label := by
  simpa using (List.mem_filter.mp member).2

/-! ## The sums of the loop -/

/-- Adding under a label moves that label's sum and no other. -/
theorem lookup_addTo {sums sums' : List (String × ℚ)} {label : String} {amount : ℚ}
    (added : addTo sums label amount = .ok sums') (other : String) :
    (sums'.lookup other).getD 0 =
      (sums.lookup other).getD 0 + if label = other then amount else 0 := by
  obtain ⟨known, rfl⟩ := addTo_eq_ok added
  clear added
  induction sums with
  | nil => simp at known
  | cons head tail inductionHypothesis =>
      rw [List.map_cons, List.lookup_cons, List.lookup_cons]
      have kept : (if head.1 = label then (head.1, head.2 + amount) else head).1 =
          head.1 := by
        split <;> rfl
      rw [kept]
      by_cases asked : head.1 = other
      · subst asked
        by_cases same : head.1 = label
        · simp [same]
        · simp [same, Ne.symm same]
      · have notHead : (other == head.1) = false := by simpa using Ne.symm asked
        rw [notHead]
        by_cases inTail : label ∈ tail.map Prod.fst
        · exact inductionHypothesis inTail
        · -- The label is the head's, so nothing in the tail moves.
          have isHead : label = head.1 := by
            rw [List.map_cons] at known
            exact (List.mem_cons.mp known).resolve_right inTail
          have elsewhere : ¬ label = other := fun same => asked (isHead.symm.trans same)
          simp only [map_addTo_of_notMem amount inTail, if_neg elsewhere, add_zero]

/-- One round adds the item's amounts under its designation. -/
theorem lookup_addItem {providedTaxRates : Entries} {expected expected' : Expected}
    {item : Key × Value} (added : addItem providedTaxRates expected item = .ok expected')
    (label : String) :
    (expected'.taxableAmounts.lookup label).getD 0 =
        (expected.taxableAmounts.lookup label).getD 0 +
          (if designation item = label then taxableOf item else 0) ∧
      (expected'.calculatedTaxes.lookup label).getD 0 =
        (expected.calculatedTaxes.lookup label).getD 0 +
          if designation item = label then taxOf providedTaxRates item else 0 := by
  obtain ⟨itemTaxableAmount, taxRate, beforeTax, rate, taxable, taxes, -⟩ := addItem_eq_ok added
  have isTax : taxOf providedTaxRates item =
      roundTo 2 (itemTaxableAmount * (taxRate / 100)) := by
    rw [taxOf, taxableOf_of_ok beforeTax, designation, numberOf_of_ok rate]
  rw [isTax, taxableOf_of_ok beforeTax]
  exact ⟨lookup_addTo taxable label, lookup_addTo taxes label⟩

/-- The loop's sum under a label is the sum over the items of that label. -/
theorem lookup_foldlM_addItem {providedTaxRates items : Entries} {start expected : Expected}
    (ran : items.foldlM (addItem providedTaxRates) start = .ok expected) (label : String) :
    (expected.taxableAmounts.lookup label).getD 0 =
        (start.taxableAmounts.lookup label).getD 0 +
          ((itemsUnder label items).map taxableOf).sum ∧
      (expected.calculatedTaxes.lookup label).getD 0 =
        (start.calculatedTaxes.lookup label).getD 0 +
          ((itemsUnder label items).map (taxOf providedTaxRates)).sum := by
  induction items generalizing start with
  | nil =>
      obtain rfl := Except.ok.inj ran
      simp [itemsUnder]
  | cons head tail inductionHypothesis =>
      rw [List.foldlM_cons] at ran
      obtain ⟨between, first, others⟩ := bind_eq_ok.mp ran
      obtain ⟨headTaxable, headTax⟩ := lookup_addItem first label
      obtain ⟨tailTaxable, tailTax⟩ := inductionHypothesis others
      rw [tailTaxable, tailTax, headTaxable, headTax]
      by_cases here : designation head = label
      · simp [here, itemsUnder, add_assoc]
      · simp [here, itemsUnder]

theorem lookup_expected {providedTaxRates items : Entries} {expected : Expected}
    (ran : items.foldlM (addItem providedTaxRates) Expected.zero = .ok expected)
    {label : String} (isLabel : label ∈ labels) :
    (expected.taxableAmounts.lookup label).getD 0 =
        ((itemsUnder label items).map taxableOf).sum ∧
      (expected.calculatedTaxes.lookup label).getD 0 =
        ((itemsUnder label items).map (taxOf providedTaxRates)).sum := by
  have zero : (Expected.zero.taxableAmounts.lookup label).getD 0 = 0 ∧
      (Expected.zero.calculatedTaxes.lookup label).getD 0 = 0 := by
    fin_cases isLabel <;> exact ⟨rfl, rfl⟩
  obtain ⟨taxable, taxes⟩ := lookup_foldlM_addItem ran label
  rw [taxable, taxes, zero.1, zero.2, zero_add, zero_add]
  exact ⟨rfl, rfl⟩

/-! ## When the loop returns -/

section WellTyped

variable {lookups : Lookups} {input : Entries}

/-- A numeric field that passes is read as a number. -/
theorem numberAt_of_passes {entries : Entries} {name : String} {rules' : List Rule}
    (passing : passes rules' (read entries name) = true) (numeric : Rule.numeric ∈ rules') :
    numberAt entries name = .ok (numberOf entries name) := by
  cases given : read entries name with
  | none => simp [numberOf, numberAt, given, Value.toNumber, Except.toOption]
  | some value =>
      by_cases isNull : value = .null
      · simp [numberOf, numberAt, given, isNull, Value.toNumber, Except.toOption]
      · rw [given] at passing
        obtain ⟨number, isNumber⟩ :=
          Value.toNumber_ok_of_isNumeric (isNumeric_of_passes passing isNull numeric)
        have readAs : numberAt entries name = .ok number := by
          rw [numberAt, given]
          exact isNumber
        rw [numberOf_of_ok readAs, readAs]

/-- The rule `min:0` bounds the number the hook reads. -/
theorem numberOf_nonneg_of_passes {entries : Entries} {name : String} {rules' : List Rule}
    (passing : passes rules' (read entries name) = true) (numeric : Rule.numeric ∈ rules')
    (atLeastZero : Rule.min 0 ∈ rules') : 0 ≤ numberOf entries name := by
  have isNumber := numberAt_of_passes passing numeric
  rw [numberAt] at isNumber
  cases given : read entries name with
  | none => simp [numberOf, numberAt, given, Value.toNumber, Except.toOption]
  | some value =>
      rw [given] at passing isNumber
      have measured : value ≠ .null → 0 ≤ size rules' value := fun notNull => by
        simpa [Rule.holds] using holds_of_passes passing notNull atLeastZero
      have isNumeric : rules'.any Rule.isNumeric = true :=
        List.any_eq_true.mpr ⟨.numeric, numeric, rfl⟩
      cases value with
      | null => simp [numberOf, numberAt, given, Value.toNumber, Except.toOption]
      | num number =>
          have same : number = numberOf entries name := Except.ok.inj isNumber
          simpa [size, ← same] using measured (by simp)
      | str text =>
          have parsed : numericString text = some (numberOf entries name) := by
            have passed : Value.isNumeric (.str text) = true :=
              isNumeric_of_passes passing (by simp) numeric
            obtain ⟨number, found⟩ := Option.isSome_iff_exists.mp passed
            have same : number = numberOf entries name := by
              simpa [Value.toNumber, stringToNumber, found] using isNumber
            rw [found, same]
          simpa [size, isNumeric, parsed] using measured (by simp)
      | bool _ | arr _ =>
          have passed := isNumeric_of_passes passing (by simp) numeric
          simp [Value.isNumeric] at passed

theorem accepts_of_schemaPasses (wellTyped : schemaPasses (rules lookups input) input = true)
    {attr : Attribute} (member : attr ∈ rules lookups input) : attr.accepts input = true :=
  List.all_eq_true.mp wellTyped attr member

/-- The amount given for a label passes the rules of its map. -/
theorem label_passes (wellTyped : schemaPasses (rules lookups input) input = true)
    {name : String} {own rules' : List Rule}
    (member : Attribute.keyed ⟨name, own⟩ (labelFields rules') ∈ rules lookups input)
    {label : String} (isLabel : label ∈ labels) :
    passes rules' (read (arrayAt input name) label) = true := by
  have accepted := accepts_of_schemaPasses wellTyped member
  simp only [Attribute.accepts, Bool.and_eq_true] at accepted
  have isField : (⟨label, rules'⟩ : Field) ∈ labelFields rules' :=
    List.mem_map_of_mem isLabel
  exact passes_of_fieldsPass accepted.2 isField

theorem itemFields_pass (wellTyped : schemaPasses (rules lookups input) input = true)
    {item : Key × Value} (member : item ∈ arrayAt input "items") :
    fieldsPass itemFields (fieldsOf item.2) = true := by
  have isRule : Attribute.each ⟨"items", [.required, .array, .min 1]⟩ itemFields ∈
      rules lookups input := by simp [rules]
  have accepted := accepts_of_schemaPasses wellTyped isRule
  simp only [Attribute.accepts, Bool.and_eq_true] at accepted
  exact List.all_eq_true.mp accepted.2 item member

/-- A well-typed item has an amount before tax. -/
theorem itemTotalBeforeTax_of_passes {item : Key × Value}
    (passing : fieldsPass itemFields (fieldsOf item.2) = true) :
    itemTotalBeforeTax (fieldsOf item.2) = .ok (taxableOf item) := by
  have numbered : ∀ name rules', (⟨name, rules'⟩ : Field) ∈ itemFields →
      Rule.numeric ∈ rules' →
        numberAt (fieldsOf item.2) name = .ok (numberOf (fieldsOf item.2) name) :=
    fun name rules' isField numeric =>
      numberAt_of_passes (passes_of_fieldsPass passing isField) numeric
  have quantity := numbered "quantity" [.required, .numeric] (by simp [itemFields]) (by simp)
  have unitPrice := numbered "unitPrice" [.required, .numeric] (by simp [itemFields]) (by simp)
  have discount := numbered "discountAmount" [.nullable, .numeric] (by simp [itemFields])
    (by simp)
  have computed : ∃ amount, itemTotalBeforeTax (fieldsOf item.2) = .ok amount := by
    simp only [itemTotalBeforeTax, quantity, unitPrice, discount, ok_bind]
    exact ⟨_, rfl⟩
  obtain ⟨amount, computed⟩ := computed
  rw [taxableOf_of_ok computed, computed]

theorem rate_rule : Attribute.keyed ⟨"taxRates", [.required, .array]⟩
    (labelFields [.nullable, .numeric, .min 0, .max 100]) ∈ rules lookups input := by
  simp [rules]

theorem addTo_of_mem {sums : List (String × ℚ)} {label : String} (amount : ℚ)
    (known : label ∈ sums.map Prod.fst) :
    ∃ sums', addTo sums label amount = .ok sums' := by
  obtain ⟨sum, member, same⟩ := List.mem_map.mp known
  have any : (sums.any fun sum => sum.1 = label) = true :=
    List.any_eq_true.mpr ⟨sum, member, by simpa using same⟩
  exact ⟨_, if_pos any⟩

/-- A round of the loop returns exactly when the designation is a label. -/
theorem addItem_returns_iff (wellTyped : schemaPasses (rules lookups input) input = true)
    {item : Key × Value} (member : item ∈ arrayAt input "items") {expected : Expected}
    (balanced : expected.Balanced) :
    (∃ expected', addItem (arrayAt input "taxRates") expected item = .ok expected') ↔
      designation item ∈ labels := by
  constructor
  · intro returns
    obtain ⟨expected', added⟩ := returns
    obtain ⟨_, _, -, -, taxable, -⟩ := addItem_eq_ok added
    obtain ⟨known, -⟩ := addTo_eq_ok taxable
    rwa [balanced.taxableLabels] at known
  · intro isLabel
    have rate := numberAt_of_passes (label_passes wellTyped rate_rule isLabel) (by simp)
    obtain ⟨taxableAmounts, taxable⟩ := addTo_of_mem (taxableOf item)
      (balanced.taxableLabels.symm ▸ isLabel)
    obtain ⟨calculatedTaxes, taxes⟩ := addTo_of_mem (taxOf (arrayAt input "taxRates") item)
      (balanced.taxLabels.symm ▸ isLabel)
    rw [designation] at rate
    simp only [taxOf, designation] at taxable taxes
    simp only [addItem, itemTotalBeforeTax_of_passes (itemFields_pass wellTyped member), rate,
      taxable, taxes, ok_bind]
    exact ⟨_, rfl⟩

/-- The loop over well-typed items returns exactly when every designation is a
label. -/
theorem foldlM_addItem_returns_iff
    (wellTyped : schemaPasses (rules lookups input) input = true) {items : Entries}
    (given : ∀ item ∈ items, item ∈ arrayAt input "items") {start : Expected}
    (balanced : start.Balanced) :
    (∃ expected, items.foldlM (addItem (arrayAt input "taxRates")) start = .ok expected) ↔
      ∀ item ∈ items, designation item ∈ labels := by
  induction items generalizing start with
  | nil => exact ⟨fun _ _ member => by simp at member, fun _ => ⟨start, rfl⟩⟩
  | cons head tail inductionHypothesis =>
      have headIff := addItem_returns_iff wellTyped (given head (by simp)) balanced
      have tailGiven : ∀ item ∈ tail, item ∈ arrayAt input "items" :=
        fun item member => given item (List.mem_cons_of_mem head member)
      rw [List.forall_mem_cons, ← headIff, List.foldlM_cons]
      constructor
      · intro returns
        obtain ⟨expected, ran⟩ := returns
        obtain ⟨between, first, others⟩ := bind_eq_ok.mp ran
        exact ⟨⟨between, first⟩,
          (inductionHypothesis tailGiven (addItem_balanced balanced first)).mp
            ⟨expected, others⟩⟩
      · intro both
        obtain ⟨⟨between, first⟩, others⟩ := both
        rw [first, ok_bind]
        exact (inductionHypothesis tailGiven (addItem_balanced balanced first)).mpr others

end WellTyped

end ProcessTransactionRequest

open ProcessTransactionRequest

/-! ## The declared tax -/

namespace AcceptedRequest

variable (request : AcceptedRequest)

theorem wellTyped :
    schemaPasses (rules request.lookups request.input) request.input = true := by
  have both := request.accepted
  simp only [accepts, Bool.and_eq_true] at both
  exact both.1

/-- `$this->input('taxRates')[$label] ?? 0`. -/
def rate (label : String) : ℚ := numberOf (arrayAt request.input "taxRates") label

theorem rate_nonneg {label : String} (isLabel : label ∈ labels) : 0 ≤ request.rate label :=
  numberOf_nonneg_of_passes (label_passes request.wellTyped rate_rule isLabel) (by simp)
    (by simp)

/-- The taxes of a label's items are the rate of their amounts, up to half a
cent an item. -/
theorem abs_sum_taxOf_sub_le (label : String) :
    |((itemsUnder label request.givenItems).map
          (taxOf (arrayAt request.input "taxRates"))).sum -
        request.rate label / 100 *
          ((itemsUnder label request.givenItems).map taxableOf).sum| ≤
      (itemsUnder label request.givenItems).length * (5 / 1000) := by
  have rounded : ∀ item ∈ itemsUnder label request.givenItems,
      |taxOf (arrayAt request.input "taxRates") item -
        taxableOf item * (request.rate label / 100)| ≤ 5 / 1000 := by
    intro item member
    rw [taxOf, designation_of_mem member]
    exact abs_roundTo_two_sub_le _
  have summed := abs_sum_map_sub_le rounded
  rwa [List.sum_map_mul_right, mul_comm] at summed

/-- The tax an accepted request declares under a label is the declared rate of
the declared taxable amount, up to two tolerances and the rounding of the
label's items. -/
theorem declared_tax_follows_rate {label : String} (isLabel : label ∈ labels) :
    |numberOf (arrayAt request.input "calculatedTaxes") label -
        request.rate label / 100 *
          numberOf (arrayAt request.input "taxableAmounts") label| ≤
      1 / 100 + 5 / 1000 * (itemsUnder label request.givenItems).length +
        1 / 10000 * request.rate label := by
  obtain ⟨expected, reconciled⟩ := request.exists_reconciled
  obtain ⟨taxableSum, taxSum⟩ := lookup_expected reconciled.loop isLabel
  have taxable := reconciled.taxable label isLabel
  have taxes := reconciled.taxes label isLabel
  rw [taxableSum, epsilon] at taxable
  rw [taxSum, epsilon] at taxes
  have rounding := request.abs_sum_taxOf_sub_le label
  have nonneg : 0 ≤ request.rate label / 100 := by
    have rateNonneg := request.rate_nonneg isLabel
    positivity
  have scaled := mul_le_mul_of_nonneg_left taxable nonneg
  rw [← abs_of_nonneg nonneg, ← abs_mul, abs_of_nonneg nonneg, mul_sub] at scaled
  simp only [givenItems] at *
  rw [abs_le] at *
  constructor <;> linarith

theorem declared_tax_follows_rate_breadSale :
    "A" ∈ labels ∧
      |numberOf (arrayAt breadSale.input "calculatedTaxes") "A" -
          breadSale.rate "A" / 100 *
            numberOf (arrayAt breadSale.input "taxableAmounts") "A"| ≤
        1 / 100 + 5 / 1000 * (itemsUnder "A" breadSale.givenItems).length +
          1 / 10000 * breadSale.rate "A" :=
  have isLabel : "A" ∈ labels := by decide
  ⟨isLabel, breadSale.declared_tax_follows_rate isLabel⟩

end AcceptedRequest

end TaxGateway.Http
