import TaxGateway.Http.ReconciledTotals

/-!
Contract: the sign of the amounts of an accepted credit note.

Owns:
- the checks the hook makes of a credit note, each passed;
- the accepted credit notes that are credits.

Does not own: sales and debit notes, whose signs nothing checks.
-/

namespace TaxGateway.Http

open TaxGateway.Php
open TaxGateway.Validation

namespace ProcessTransactionRequest

/-! ## The checks of the hook -/

/-- An item the hook lets pass has a negative amount. -/
theorem creditItemError_eq_nil {item : Key × Value}
    (silent : creditItemError item = .ok []) :
    ∃ amount, itemTotalBeforeTax (fieldsOf item.2) = .ok amount ∧ amount < 0 := by
  obtain ⟨amount, computed, silent⟩ := bind_eq_ok.mp silent
  split at silent
  next => exact absurd (Except.ok.inj silent) (by simp)
  next negative => exact ⟨amount, computed, not_le.mp negative⟩

/-- The total is only asked not to be positive. -/
theorem creditErrors_eq_nil {items : Entries} {totalAmount : ℚ}
    (silent : creditErrors items totalAmount = .ok []) :
    (∀ item ∈ items, ∃ amount,
        itemTotalBeforeTax (fieldsOf item.2) = .ok amount ∧ amount < 0) ∧
      totalAmount ≤ 0 := by
  obtain ⟨itemErrors, itemsOk, returned⟩ := bind_eq_ok.mp silent
  obtain ⟨noItemErrors, noTotalErrors⟩ := List.append_eq_nil_iff.mp (Except.ok.inj returned)
  constructor
  · intro item member
    obtain ⟨errors, isErrors, ran⟩ := exists_of_mapM_eq_ok itemsOk member
    obtain rfl := List.flatten_eq_nil_iff.mp noItemErrors errors isErrors
    exact creditItemError_eq_nil ran
  · split at noTotalErrors
    next => contradiction
    next notPositive => exact not_lt.mp notPositive

end ProcessTransactionRequest

open ProcessTransactionRequest

namespace AcceptedRequest

variable (request : AcceptedRequest)

theorem credit_checks (creditNote : isCreditNote request.input = true) :
    (∀ item ∈ request.givenItems, ∃ amount,
        itemTotalBeforeTax (fieldsOf item.2) = .ok amount ∧ amount < 0) ∧
      request.totalAmount ≤ 0 := by
  have both := request.accepted
  simp only [accepts, Bool.and_eq_true] at both
  obtain ⟨-, silent⟩ := both
  split at silent
  next none =>
    obtain ⟨expected, totalAmount, perLabel, credit, -, isNumber, -, checked, nothing⟩ :=
      afterHook_eq_ok none
    have noCredit : credit = [] := (List.append_eq_nil_iff.mp nothing.symm).2
    rw [if_pos creditNote, noCredit] at checked
    rw [AcceptedRequest.totalAmount, numberOf_of_ok isNumber]
    exact creditErrors_eq_nil checked
  next => contradiction

/-- An accepted credit note is a credit, item by item and in total, exactly when
its total is not zero. -/
theorem credit_note_is_credit_iff (creditNote : isCreditNote request.input = true) :
    ((∀ item ∈ request.givenItems, ∃ amount,
          itemTotalBeforeTax (fieldsOf item.2) = .ok amount ∧ amount < 0) ∧
        request.totalAmount < 0) ↔
      request.totalAmount ≠ 0 := by
  obtain ⟨negativeItems, notPositive⟩ := request.credit_checks creditNote
  constructor
  · intro credit
    exact credit.2.ne
  · intro nonzero
    exact ⟨negativeItems, lt_of_le_of_ne notPositive nonzero⟩

/-- The input of a credit note for one returned article. -/
def returnInput (unitPrice totalAmount : ℚ) : Entries :=
  [(.str "gatewayDeviceId", .str "0f8fad5b-d9cb-469f-a165-70867728950e"),
    (.str "taxpayerPin", .str "P051234567X"),
    (.str "receiptType", .str "NORMAL"),
    (.str "transactionType", .str "CREDIT_NOTE"),
    (.str "internalReceiptNumber", .str "CN-1"),
    (.str "items", .arr [(.int 0, .arr
      [(.str "description", .str "Bread"), (.str "quantity", .num (-1)),
        (.str "unitPrice", .num unitPrice), (.str "taxDesignationCode", .str "A")])]),
    (.str "totalAmount", .num totalAmount),
    (.str "paymentMethod", .str "CASH"),
    (.str "taxRates", .arr [(.str "A", .num 0)]),
    (.str "taxableAmounts", .arr [(.str "A", .num totalAmount)]),
    (.str "calculatedTaxes", .arr [(.str "A", .num 0)]),
    (.str "originalInvoiceScuId", .str "KRA-SCU-1"),
    (.str "originalInvoiceInternalReceiptNumber", .str "INV-1"),
    (.str "creditNoteReason", .str "Returned")]

def breadReturn : AcceptedRequest :=
  ⟨anyLookup, returnInput 100 (-100), by decide +kernel⟩

/-- Half a cent is returned, and nothing declared. -/
def halfCentReturn : AcceptedRequest :=
  ⟨anyLookup, returnInput (5 / 1000) 0, by decide +kernel⟩

theorem credit_note_is_credit_iff_breadReturn :
    isCreditNote breadReturn.input = true ∧
      (((∀ item ∈ breadReturn.givenItems, ∃ amount,
            itemTotalBeforeTax (fieldsOf item.2) = .ok amount ∧ amount < 0) ∧
          breadReturn.totalAmount < 0) ↔
        breadReturn.totalAmount ≠ 0) :=
  have creditNote : isCreditNote breadReturn.input = true := by decide +kernel
  ⟨creditNote, breadReturn.credit_note_is_credit_iff creditNote⟩

theorem halfCentReturn_not_credit :
    isCreditNote halfCentReturn.input = true ∧ ¬ halfCentReturn.totalAmount < 0 := by
  decide +kernel

end AcceptedRequest

end TaxGateway.Http
