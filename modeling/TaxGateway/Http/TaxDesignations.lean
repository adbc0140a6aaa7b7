import TaxGateway.Http.LabelSums

/-!
Contract: what becomes of an item's tax designation in the after-hook.

Owns:
- what it is for the hook to deal with a designation: the item counts in the
  reconciliation of its label, or an error names it;
- the inputs that satisfy `rules()` on which the hook does so for every item.

Does not own: requests that fail `rules()`, for which the hook does nothing.
-/

namespace TaxGateway.Http

open TaxGateway.Php
open TaxGateway.Validation

namespace ProcessTransactionRequest

/-- The error of a per-label comparison that fails. -/
def mismatch (field what label : String) : FieldError :=
  (field ++ "." ++ label,
    "Calculated " ++ what ++ " for " ++ label ++ " does not match provided.")

/-- The sums over a label's items have been compared with the provided amounts:
an error stands for each comparison that fails, and only for those. -/
def Reconciles (input : Entries) (errors : List FieldError) (label : String) : Prop :=
  (mismatch "taxableAmounts" "taxable amount" label ∈ errors ↔
      epsilon < |((itemsUnder label (arrayAt input "items")).map taxableOf).sum -
        numberOf (arrayAt input "taxableAmounts") label|) ∧
    (mismatch "calculatedTaxes" "tax" label ∈ errors ↔
      epsilon < |((itemsUnder label (arrayAt input "items")).map
          (taxOf (arrayAt input "taxRates"))).sum -
        numberOf (arrayAt input "calculatedTaxes") label|)

/-- An error names the item's designation. -/
def Reported (errors : List FieldError) (item : Key × Value) : Prop :=
  ∃ message, ("items." ++ keyText item.1 ++ ".taxDesignationCode", message) ∈ errors

/-- The hook returns, and has dealt with the designation of every item. -/
def HandlesDesignations (input : Entries) : Prop :=
  ∃ errors, afterHook input = .ok errors ∧
    ∀ item ∈ arrayAt input "items",
      (designation item ∈ labels ∧ Reconciles input errors (designation item)) ∨
        Reported errors item

/-! ## The errors of the comparisons -/

theorem mem_labelError {field what label : String} {sums : List (String × ℚ)}
    {provided : Entries} {errors : List FieldError}
    (compared : labelError field what label sums provided = .ok errors) (error : FieldError) :
    error ∈ errors ↔ error = mismatch field what label ∧
      epsilon < |(sums.lookup label).getD 0 - numberOf provided label| := by
  obtain ⟨amount, isNumber, compared⟩ := bind_eq_ok.mp compared
  rw [numberOf_of_ok isNumber]
  split at compared
  next off =>
    obtain rfl := Except.ok.inj compared
    simp [mismatch, off]
  next within =>
    obtain rfl := Except.ok.inj compared
    simp [within]

/-- What the comparisons of one label add. -/
theorem mem_labelErrors {input : Entries} {expected : Expected} {label : String}
    {errors : List FieldError} (compared : labelErrors input expected label = .ok errors)
    (error : FieldError) :
    error ∈ errors ↔
      (error = mismatch "taxableAmounts" "taxable amount" label ∧
          epsilon < |(expected.taxableAmounts.lookup label).getD 0 -
            numberOf (arrayAt input "taxableAmounts") label|) ∨
        (error = mismatch "calculatedTaxes" "tax" label ∧
          epsilon < |(expected.calculatedTaxes.lookup label).getD 0 -
            numberOf (arrayAt input "calculatedTaxes") label|) := by
  obtain ⟨taxable, taxableOk, compared⟩ := bind_eq_ok.mp compared
  obtain ⟨taxes, taxesOk, both⟩ := bind_eq_ok.mp compared
  obtain rfl := Except.ok.inj both
  rw [List.mem_append, mem_labelError taxableOk, mem_labelError taxesOk]

/-- The mismatches of the labels are all different, and none is the error of the
total. -/
theorem mismatches_apart : ∀ label ∈ labels, ∀ other ∈ labels,
    (mismatch "taxableAmounts" "taxable amount" label =
        mismatch "taxableAmounts" "taxable amount" other → label = other) ∧
      (mismatch "calculatedTaxes" "tax" label = mismatch "calculatedTaxes" "tax" other →
        label = other) ∧
      mismatch "taxableAmounts" "taxable amount" label ≠
        mismatch "calculatedTaxes" "tax" other := by
  decide +kernel

theorem mismatch_not_credit : ∀ label ∈ labels,
    ∀ error ∈ [mismatch "taxableAmounts" "taxable amount" label,
        mismatch "calculatedTaxes" "tax" label],
      error.1 ≠ "totalAmount" ∧
        error.2 ≠ "For credit notes, the total item amount must be negative (either negative " ++
          "quantity or negative unit price)." := by
  decide +kernel

/-- The errors of all labels hold a label's mismatch exactly when that label's
comparison failed. -/
theorem mismatch_mem_flatten {input : Entries} {expected : Expected}
    {perLabel : List (List FieldError)}
    (compared : labels.mapM (labelErrors input expected) = .ok perLabel)
    {label : String} (isLabel : label ∈ labels) :
    (mismatch "taxableAmounts" "taxable amount" label ∈ perLabel.flatten ↔
        epsilon < |(expected.taxableAmounts.lookup label).getD 0 -
          numberOf (arrayAt input "taxableAmounts") label|) ∧
      (mismatch "calculatedTaxes" "tax" label ∈ perLabel.flatten ↔
        epsilon < |(expected.calculatedTaxes.lookup label).getD 0 -
          numberOf (arrayAt input "calculatedTaxes") label|) := by
  obtain ⟨own, ownMember, ownOk⟩ := exists_of_mapM_eq_ok compared isLabel
  have someLabel : ∀ errors ∈ perLabel, ∃ other ∈ labels,
      labelErrors input expected other = .ok errors := by
    intro errors member
    exact exists_source_of_mapM_eq_ok compared member
  constructor
  · constructor
    · intro member
      obtain ⟨errors, isErrors, member⟩ := List.mem_flatten.mp member
      obtain ⟨other, isOther, otherOk⟩ := someLabel errors isErrors
      rcases (mem_labelErrors otherOk _).mp member with ⟨same, off⟩ | ⟨same, -⟩
      · obtain rfl := (mismatches_apart label isLabel other isOther).1 same
        exact off
      · exact absurd same (mismatches_apart label isLabel other isOther).2.2
    · intro off
      exact List.mem_flatten.mpr ⟨own, ownMember, (mem_labelErrors ownOk _).mpr (.inl ⟨rfl, off⟩)⟩
  · constructor
    · intro member
      obtain ⟨errors, isErrors, member⟩ := List.mem_flatten.mp member
      obtain ⟨other, isOther, otherOk⟩ := someLabel errors isErrors
      rcases (mem_labelErrors otherOk _).mp member with ⟨same, -⟩ | ⟨same, off⟩
      · exact absurd same.symm (mismatches_apart other isOther label isLabel).2.2
      · obtain rfl := (mismatches_apart label isLabel other isOther).2.1 same
        exact off
    · intro off
      exact List.mem_flatten.mpr ⟨own, ownMember, (mem_labelErrors ownOk _).mpr (.inr ⟨rfl, off⟩)⟩

/-- The credit checks name a quantity or the total. -/
theorem of_mem_creditErrors {items : Entries} {totalAmount : ℚ} {errors : List FieldError}
    (checked : creditErrors items totalAmount = .ok errors) {error : FieldError}
    (member : error ∈ errors) :
    error.1 = "totalAmount" ∨
      error.2 = "For credit notes, the total item amount must be negative (either negative " ++
        "quantity or negative unit price)." := by
  obtain ⟨itemErrors, itemsOk, returned⟩ := bind_eq_ok.mp checked
  obtain rfl := Except.ok.inj returned
  rcases List.mem_append.mp member with ofItem | ofTotal
  · obtain ⟨own, isOwn, member⟩ := List.mem_flatten.mp ofItem
    obtain ⟨item, -, ran⟩ := exists_source_of_mapM_eq_ok itemsOk isOwn
    obtain ⟨itemTotal, -, returned⟩ := bind_eq_ok.mp ran
    split at returned
    next =>
      obtain rfl := Except.ok.inj returned
      obtain rfl := List.mem_singleton.mp member
      exact .inr rfl
    next =>
      obtain rfl := Except.ok.inj returned
      simp at member
  · split at ofTotal
    next =>
      obtain rfl := List.mem_singleton.mp ofTotal
      exact .inl rfl
    next => simp at ofTotal

/-- A hook that returns has reconciled every label. -/
theorem reconciles_of_afterHook {input : Entries} {errors : List FieldError}
    (returned : afterHook input = .ok errors) {label : String} (isLabel : label ∈ labels) :
    Reconciles input errors label := by
  obtain ⟨expected, totalAmount, perLabel, credit, loop, -, compared, checked, rfl⟩ :=
    afterHook_eq_ok returned
  obtain ⟨taxableSum, taxSum⟩ := lookup_expected loop isLabel
  have notTotal : ∀ error ∈ totalError expected totalAmount, error.1 = "totalAmount" := by
    intro error member
    unfold totalError at member
    split at member
    next =>
      obtain rfl := List.mem_singleton.mp member
      rfl
    next => simp at member
  have onlyPerLabel : ∀ error ∈ [mismatch "taxableAmounts" "taxable amount" label,
      mismatch "calculatedTaxes" "tax" label],
      (error ∈ totalError expected totalAmount ++ perLabel.flatten ++ credit ↔
        error ∈ perLabel.flatten) := by
    intro error isMismatch
    obtain ⟨notNamed, notSaid⟩ := mismatch_not_credit label isLabel error isMismatch
    have notCredit : error ∉ credit := by
      intro member
      split at checked
      next => exact (of_mem_creditErrors checked member).elim notNamed notSaid
      next =>
        obtain rfl := Except.ok.inj checked
        simp at member
    rw [List.mem_append, List.mem_append]
    constructor
    · intro member
      rcases member with (ofTotal | inLabels) | ofCredit
      · exact absurd (notTotal error ofTotal) notNamed
      · exact inLabels
      · exact absurd ofCredit notCredit
    · intro member
      exact .inl (.inr member)
  obtain ⟨taxable, taxes⟩ := mismatch_mem_flatten compared isLabel
  rw [taxableSum] at taxable
  rw [taxSum] at taxes
  exact ⟨(onlyPerLabel _ (by simp)).trans taxable, (onlyPerLabel _ (by simp)).trans taxes⟩

/-! ## When the hook returns -/

section WellTyped

variable {lookups : Lookups} {input : Entries}

theorem labelErrors_returns (wellTyped : schemaPasses (rules lookups input) input = true)
    (expected : Expected) {label : String} (isLabel : label ∈ labels) :
    ∃ errors, labelErrors input expected label = .ok errors := by
  have isAmount : ∀ name, Attribute.keyed ⟨name, [.required, .array]⟩
      (labelFields [.nullable, .numeric]) ∈ rules lookups input →
        numberAt (arrayAt input name) label = .ok (numberOf (arrayAt input name) label) :=
    fun name member => numberAt_of_passes (label_passes wellTyped member isLabel) (by simp)
  have compared : ∀ field what sums name, Attribute.keyed ⟨name, [.required, .array]⟩
      (labelFields [.nullable, .numeric]) ∈ rules lookups input →
        ∃ errors, labelError field what label sums (arrayAt input name) = .ok errors := by
    intro field what sums name member
    simp only [labelError, isAmount name member, ok_bind]
    split <;> exact ⟨_, rfl⟩
  obtain ⟨taxable, taxableOk⟩ := compared "taxableAmounts" "taxable amount"
    expected.taxableAmounts "taxableAmounts" (by simp [rules])
  obtain ⟨taxes, taxesOk⟩ := compared "calculatedTaxes" "tax"
    expected.calculatedTaxes "calculatedTaxes" (by simp [rules])
  exact ⟨taxable ++ taxes, by simp only [labelErrors, taxableOk, taxesOk, ok_bind]; rfl⟩

theorem creditErrors_returns (wellTyped : schemaPasses (rules lookups input) input = true)
    (totalAmount : ℚ) :
    ∃ errors, creditErrors (arrayAt input "items") totalAmount = .ok errors := by
  have each : ∀ item ∈ arrayAt input "items", ∃ errors, creditItemError item = .ok errors := by
    intro item member
    simp only [creditItemError, ok_bind,
      itemTotalBeforeTax_of_passes (itemFields_pass wellTyped member)]
    split <;> exact ⟨_, rfl⟩
  obtain ⟨itemErrors, itemsOk⟩ := mapM_returns_iff.mpr each
  simp only [creditErrors, itemsOk, ok_bind]
  exact ⟨_, rfl⟩

/-- On a well-typed request the hook returns exactly when every designation is a
label. -/
theorem afterHook_returns_iff (wellTyped : schemaPasses (rules lookups input) input = true) :
    (∃ errors, afterHook input = .ok errors) ↔
      ∀ item ∈ arrayAt input "items", designation item ∈ labels := by
  rw [← foldlM_addItem_returns_iff wellTyped (fun _ member => member) balanced_zero]
  constructor
  · intro returns
    obtain ⟨errors, returned⟩ := returns
    obtain ⟨expected, _, _, _, loop, -⟩ := afterHook_eq_ok returned
    exact ⟨expected, loop⟩
  · intro returns
    obtain ⟨expected, loop⟩ := returns
    have isTotal : Attribute.leaf ⟨"totalAmount", [.required, .numeric]⟩ ∈
        rules lookups input := by simp [rules]
    have accepted := accepts_of_schemaPasses wellTyped isTotal
    simp only [Attribute.accepts, Bool.and_true] at accepted
    have isNumber : numberAt input "totalAmount" = .ok (numberOf input "totalAmount") :=
      numberAt_of_passes accepted (by simp [Attribute.field])
    obtain ⟨perLabel, compared⟩ := mapM_returns_iff.mpr fun label isLabel =>
      labelErrors_returns wellTyped expected isLabel
    obtain ⟨credit, checked⟩ :=
      creditErrors_returns wellTyped (numberOf input "totalAmount")
    simp only [afterHook, loop, isNumber, compared, checked, ok_bind]
    split <;> exact ⟨_, rfl⟩

/-- The hook deals with every designation of a well-typed request exactly when
each of them is one of the five labels. Any other designation makes it throw. -/
theorem designations_handled_iff
    (wellTyped : schemaPasses (rules lookups input) input = true) :
    HandlesDesignations input ↔
      ∀ item ∈ arrayAt input "items", designation item ∈ labels := by
  rw [← afterHook_returns_iff wellTyped]
  constructor
  · intro handled
    obtain ⟨errors, returned, -⟩ := handled
    exact ⟨errors, returned⟩
  · intro returns
    have allLabels := (afterHook_returns_iff wellTyped).mp returns
    obtain ⟨errors, returned⟩ := returns
    refine ⟨errors, returned, ?_⟩
    intro item member
    have isLabel := allLabels item member
    exact .inl ⟨isLabel, reconciles_of_afterHook returned isLabel⟩

end WellTyped

/-- A sale of one article for a hundred shillings under a tax designation. -/
def designatedSale (code : String) : Entries :=
  Value.assignKey (AcceptedRequest.cashSaleInput (.int 0) "Bread") "items"
    (.arr [(.int 0, .arr
      [(.str "description", .str "Bread"), (.str "quantity", .num 1),
        (.str "unitPrice", .num 100), (.str "taxDesignationCode", .str code)])])

theorem designations_handled_iff_exempt :
    schemaPasses (rules AcceptedRequest.anyLookup (designatedSale "A"))
        (designatedSale "A") = true ∧
      (HandlesDesignations (designatedSale "A") ↔
        ∀ item ∈ arrayAt (designatedSale "A") "items", designation item ∈ labels) :=
  have wellTyped : schemaPasses (rules AcceptedRequest.anyLookup (designatedSale "A"))
      (designatedSale "A") = true := by decide +kernel
  ⟨wellTyped, designations_handled_iff wellTyped⟩

/-- The designation `F` satisfies the rules, and the hook throws on it. -/
theorem unknown_designation_throws :
    schemaPasses (rules AcceptedRequest.anyLookup (designatedSale "F"))
        (designatedSale "F") = true ∧
      ¬ HandlesDesignations (designatedSale "F") := by
  refine ⟨by decide +kernel, ?_⟩
  intro handled
  obtain ⟨errors, returned, -⟩ := handled
  have thrown : afterHook (designatedSale "F") =
      .error (.exception "Undefined array key F") := by decide +kernel
  rw [thrown] at returned
  contradiction

end ProcessTransactionRequest

end TaxGateway.Http
