import TaxGateway.Services.KraSalesService

/-!
Contract: which transaction data `KraSalesService` can make a receipt of.

Owns: the condition on the data, and its equivalence with the payload being built.
The service checks nothing beforehand: every part of the condition is where one of
its statements throws.
-/

namespace TaxGateway.Services.KraSalesService

open TaxGateway.Php
open TaxGateway.Services.KraFields (FormatsTaxes strtoupper)

/-- The type under a key, one of the known ones in any case. -/
def HasType (transactionData : Value) (key : String) (known : List String) : Prop :=
  ∃ value type, transactionData.index key = some value ∧ value.toText = .ok type ∧
    strtoupper type ∈ known

/-- Data of which a receipt can be made: tax maps that hold amounts, known types, a
receipt number, and no array where a text is due. -/
structure Signable (transactionData : Value) : Prop where
  taxMaps : ∀ key ∈ ["taxRates", "taxableAmounts", "calculatedTaxes"],
    FormatsTaxes (transactionData.coalesce key (.arr []))
  receiptType : HasType transactionData "receiptType" ["NORMAL", "COPY", "TRAINING", "PROFORMA"]
  transactionType : HasType transactionData "transactionType" ["SALE", "CREDIT_NOTE", "DEBIT_NOTE"]
  receiptNumber : ∃ rnum, transactionData.index "internalReceiptNumber" = some rnum ∧
    rnum.isArray = false
  buyerPin : (transactionData.coalesce "buyerPin" .null).isEmpty = true ∨
    (transactionData.coalesce "buyerPin" .null).isArray = false

variable {sale : Sale}

theorem textAt_eq_ok {transactionData : Value} {key text : String} :
    textAt transactionData key = .ok text ↔
      ∃ value, transactionData.index key = some value ∧ value.toText = .ok text := by
  unfold textAt
  cases transactionData.index key <;> simp

theorem valueAt_eq_ok {transactionData value : Value} {key : String} :
    valueAt transactionData key = .ok value ↔ transactionData.index key = some value := by
  unfold valueAt
  cases transactionData.index key <;> simp

/-- Everything `receiptPayload` needs, and what it makes of it. -/
theorem receiptPayload_eq_ok {payload : List (String × Value)} :
    receiptPayload sale = .ok payload ↔
      ∃ taxRates taxableAmounts calculatedTaxes receiptType rtype transactionType ttype rnum,
        formatTaxDataForKraXml (sale.transactionData.coalesce "taxRates" (.arr [])) "Rate" =
          .ok taxRates ∧
        formatTaxDataForKraXml (sale.transactionData.coalesce "taxableAmounts" (.arr []))
          "Amount" = .ok taxableAmounts ∧
        formatTaxDataForKraXml (sale.transactionData.coalesce "calculatedTaxes" (.arr []))
          "Tax" = .ok calculatedTaxes ∧
        textAt sale.transactionData "receiptType" = .ok receiptType ∧
        getKraReceiptType receiptType = .ok rtype ∧
        textAt sale.transactionData "transactionType" = .ok transactionType ∧
        getKraTransactionType transactionType = .ok ttype ∧
        valueAt sale.transactionData "internalReceiptNumber" = .ok rnum ∧
        receiptHeader sale.now rtype ttype rnum ++ taxRates ++ taxableAmounts ++
          calculatedTaxes ++ clientsPin sale.transactionData = payload := by
  simp only [receiptPayload, bind_eq_ok, pure, Except.pure, Except.ok.injEq]
  constructor
  · rintro ⟨rates, ratesOk, amounts, amountsOk, taxes, taxesOk, receipt, receiptOk, rtype, rtypeOk,
      transaction, transactionOk, ttype, ttypeOk, rnum, rnumOk, built⟩
    exact ⟨rates, amounts, taxes, receipt, rtype, transaction, ttype, rnum, ratesOk, amountsOk,
      taxesOk, receiptOk, rtypeOk, transactionOk, ttypeOk, rnumOk, built⟩
  · rintro ⟨rates, amounts, taxes, receipt, rtype, transaction, ttype, rnum, ratesOk, amountsOk,
      taxesOk, receiptOk, rtypeOk, transactionOk, ttypeOk, rnumOk, built⟩
    exact ⟨rates, ratesOk, amounts, amountsOk, taxes, taxesOk, receipt, receiptOk, rtype, rtypeOk,
      transaction, transactionOk, ttype, ttypeOk, rnum, rnumOk, built⟩

/-- Of the parts of a payload only the receipt number and the buyer's PIN can be
arrays. -/
theorem any_isArray_payload (rtype ttype : String) {rnum : Value}
    {taxRates taxableAmounts calculatedTaxes : List (String × Value)}
    (rates : ∀ field ∈ taxRates, field.2.isArray = false)
    (amounts : ∀ field ∈ taxableAmounts, field.2.isArray = false)
    (taxes : ∀ field ∈ calculatedTaxes, field.2.isArray = false) :
    ((receiptHeader sale.now rtype ttype rnum ++ taxRates ++ taxableAmounts ++
      calculatedTaxes ++ clientsPin sale.transactionData).any fun child => child.2.isArray) =
        false ↔
      rnum.isArray = false ∧
        ((sale.transactionData.coalesce "buyerPin" .null).isEmpty = true ∨
          (sale.transactionData.coalesce "buyerPin" .null).isArray = false) := by
  have pinFields : (∀ field ∈ clientsPin sale.transactionData, field.2.isArray = false) ↔
      ((sale.transactionData.coalesce "buyerPin" .null).isEmpty = true ∨
        (sale.transactionData.coalesce "buyerPin" .null).isArray = false) := by
    unfold clientsPin
    by_cases isEmpty : (sale.transactionData.coalesce "buyerPin" .null).isEmpty = true <;>
      simp [isEmpty]
  rw [← pinFields]
  simp only [List.any_append, Bool.or_eq_false_iff, List.any_eq_false, receiptHeader,
    List.mem_cons, List.not_mem_nil, or_false, Bool.not_eq_true]
  constructor
  · rintro ⟨⟨⟨⟨header, -⟩, -⟩, -⟩, pin⟩
    exact ⟨header ("RNum", rnum) (by simp), pin⟩
  · rintro ⟨number, pin⟩
    refine ⟨⟨⟨⟨?_, rates⟩, amounts⟩, taxes⟩, pin⟩
    rintro field (rfl | rfl | rfl | rfl | rfl)
    · rfl
    · rfl
    · rfl
    · rfl
    · exact number

theorem signable_of_receiptPayload {payload : List (String × Value)}
    (built : receiptPayload sale = .ok payload)
    (noArrays : (payload.any fun child => child.2.isArray) = false) :
    Signable sale.transactionData := by
  obtain ⟨rates, amounts, taxes, receiptType, rtype, transactionType, ttype, rnum, ratesOk,
    amountsOk, taxesOk, receiptOk, rtypeOk, transactionOk, ttypeOk, rnumOk, rfl⟩ :=
    receiptPayload_eq_ok.mp built
  obtain ⟨number, buyer⟩ := (any_isArray_payload rtype ttype
    (KraFields.isArray_of_formatted ratesOk) (KraFields.isArray_of_formatted amountsOk)
    (KraFields.isArray_of_formatted taxesOk)).mp noArrays
  obtain ⟨receipt, isReceipt, receiptText⟩ := textAt_eq_ok.mp receiptOk
  obtain ⟨transaction, isTransaction, transactionText⟩ := textAt_eq_ok.mp transactionOk
  refine ⟨?_, ?_, ?_, ⟨rnum, valueAt_eq_ok.mp rnumOk, number⟩, buyer⟩
  · intro key isKey
    simp only [List.mem_cons, List.not_mem_nil, or_false] at isKey
    rcases isKey with rfl | rfl | rfl
    · exact KraFields.formatTaxDataForKraXml_returns_iff.mp ⟨rates, ratesOk⟩
    · exact KraFields.formatTaxDataForKraXml_returns_iff.mp ⟨amounts, amountsOk⟩
    · exact KraFields.formatTaxDataForKraXml_returns_iff.mp ⟨taxes, taxesOk⟩
  · exact ⟨receipt, receiptType, isReceipt, receiptText,
      KraFields.getKraReceiptType_returns_iff.mp ⟨rtype, rtypeOk⟩⟩
  · exact ⟨transaction, transactionType, isTransaction, transactionText,
      KraFields.getKraTransactionType_returns_iff.mp ⟨ttype, ttypeOk⟩⟩

theorem exists_receiptPayload_of_signable (signable : Signable sale.transactionData) :
    ∃ payload, receiptPayload sale = .ok payload ∧
      (payload.any fun child => child.2.isArray) = false := by
  obtain ⟨taxMaps, ⟨receipt, receiptType, isReceipt, receiptText, knownReceipt⟩,
    ⟨transaction, transactionType, isTransaction, transactionText, knownTransaction⟩,
    ⟨rnum, isNumber, number⟩, buyer⟩ := signable
  have formats : ∀ key ∈ ["taxRates", "taxableAmounts", "calculatedTaxes"], ∀ typeSuffix,
      ∃ fields, formatTaxDataForKraXml (sale.transactionData.coalesce key (.arr []))
        typeSuffix = .ok fields :=
    fun key isKey typeSuffix => KraFields.formatTaxDataForKraXml_returns_iff.mpr
      (taxMaps key isKey)
  obtain ⟨rates, ratesOk⟩ := formats "taxRates" (by simp) "Rate"
  obtain ⟨amounts, amountsOk⟩ := formats "taxableAmounts" (by simp) "Amount"
  obtain ⟨taxes, taxesOk⟩ := formats "calculatedTaxes" (by simp) "Tax"
  obtain ⟨rtype, rtypeOk⟩ := KraFields.getKraReceiptType_returns_iff.mpr knownReceipt
  obtain ⟨ttype, ttypeOk⟩ := KraFields.getKraTransactionType_returns_iff.mpr knownTransaction
  refine ⟨_, receiptPayload_eq_ok.mpr
    ⟨rates, amounts, taxes, receiptType, rtype, transactionType, ttype, rnum, ratesOk,
      amountsOk, taxesOk, textAt_eq_ok.mpr ⟨receipt, isReceipt, receiptText⟩, rtypeOk,
      textAt_eq_ok.mpr ⟨transaction, isTransaction, transactionText⟩, ttypeOk,
      valueAt_eq_ok.mpr isNumber, rfl⟩, ?_⟩
  exact (any_isArray_payload rtype ttype (KraFields.isArray_of_formatted ratesOk)
    (KraFields.isArray_of_formatted amountsOk) (KraFields.isArray_of_formatted taxesOk)).mpr
      ⟨number, buyer⟩

/-- The payload is built exactly of signable data. -/
theorem signingXml_returns_iff {pin : String} (hasPin : sale.device.pin = .ok pin) :
    (∃ xmlPayload, signingXml sale = .ok xmlPayload) ↔ Signable sale.transactionData := by
  rw [signingXml, hasPin, ok_bind]
  constructor
  · rintro ⟨xmlPayload, built⟩
    obtain ⟨payload, payloadOk, xmlOk⟩ := bind_eq_ok.mp built
    exact signable_of_receiptPayload payloadOk (buildKraXml_eq_ok.mp xmlOk).1
  · intro signable
    obtain ⟨payload, payloadOk, noArrays⟩ := exists_receiptPayload_of_signable signable
    rw [payloadOk, ok_bind]
    exact ⟨_, buildKraXml_eq_ok.mpr ⟨noArrays, rfl⟩⟩

end TaxGateway.Services.KraSalesService
