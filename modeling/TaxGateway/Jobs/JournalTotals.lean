import TaxGateway.Http.ReconciledTotals
import TaxGateway.Jobs.JournalContent

/-!
Contract: the sum of a journal's line totals against the receipt total.

Owns:
- the commands an attempt sends, and the `ItemTotal` each item line prints;
- the exact condition under which the line totals of an accepted request
  reconcile with its total;
- two cases of it: items that give the totals the after-hook computed, and
  items that give none.

Does not own: attempts that a failed exchange cuts short.
-/

namespace TaxGateway.Jobs.ProcessKraJournalingJob

open TaxGateway.Php
open TaxGateway.Validation
open TaxGateway.Database
open TaxGateway.Http
open TaxGateway.Http.ProcessTransactionRequest
open TaxGateway.Services

/-! ## The totals a plan prints -/

/-- The commands of a plan whose exchanges all succeed: those before the first
step that throws. -/
def sentCommands : List Prepared → List KraCommand
  | [] => []
  | .error _ :: _ => []
  | .ok command :: rest => command :: sentCommands rest

/-- The `ItemTotal` of a `SEND_RECEIPTITEM`. -/
def lineTotal (command : KraCommand) : Option ℚ :=
  if command.xml.command = "SEND_RECEIPTITEM" then
    KraFields.fieldNumber command.xml.data "ItemTotal"
  else none

/-- The sum of the line totals sent for a transaction. -/
def journaledTotal (device : KraDevice) (transaction : Transaction) : ℚ :=
  ((sentCommands (journalPlan device transaction)).filterMap lineTotal).sum

/-- The hook's tolerance, and half a cent for each item. -/
def lineTolerance (request : AcceptedRequest) : ℚ :=
  1 / 100 + 5 / 1000 * request.givenItems.length

/-- The line totals sent for a request reconcile with its total. -/
def LinesReconcile (request : AcceptedRequest) (device : KraDevice)
    (transaction : Transaction) : Prop :=
  |journaledTotal device transaction - request.totalAmount| ≤ lineTolerance request

/-! ## The totals the items give -/

/-- Does the job's `int $itemIndex` take the item's key? -/
def isNumbered (item : Key × Value) : Bool :=
  (item.1.toInt "sendReceiptItem(): Argument #5 ($itemIndex)").toOption.isSome

/-- The total an item gives; zero when it gives none. -/
def givenTotal (item : Key × Value) : ℚ := numberOf (fieldsOf item.2) "totalAmount"

/-- The items before the first whose key is no number. -/
def numberedItems (request : AcceptedRequest) : Entries :=
  request.givenItems.takeWhile isNumbered

/-- What is left of an item in the validated data. -/
def reduced (item : Key × Value) : Key × Value :=
  (item.1, .arr (validatedFields itemFields (fieldsOf item.2)))

/-- The total an item gives survives validation. -/
theorem toNumber_reduced_totalAmount {request : AcceptedRequest} {item : Key × Value}
    (member : item ∈ request.givenItems) :
    ((reduced item).2.coalesce "totalAmount" (.num 0)).toNumber = .ok (givenTotal item) := by
  have isField : (⟨"totalAmount", [.nullable, .numeric]⟩ : Field) ∈ itemFields := by
    simp [itemFields]
  have passing := passes_of_fieldsPass (request.givenItems_pass member) isField
  have survives : (reduced item).2.index "totalAmount" =
      read (fieldsOf item.2) "totalAmount" :=
    lookup_validatedFields_of_mem (by simp [itemFields]) isField (fieldsOf item.2)
  exact toNumber_of_kept survives passing (by simp)

/-- The line of a numbered item prints its total, rounded to cents. -/
theorem lineTotal_of_numbered {request : AcceptedRequest} {item : Key × Value}
    (member : item ∈ request.givenItems) (numbered : isNumbered item = true)
    (pin : String) (transaction : Transaction) :
    ∃ command, sendReceiptItem pin transaction (reduced item) = .ok command ∧
      lineTotal command = some (roundTo 2 (givenTotal item)) := by
  have survives : reduced item ∈ request.items := by
    rw [request.items_eq_map]
    exact List.mem_map_of_mem member
  have converted : item.1.toInt "sendReceiptItem(): Argument #5 ($itemIndex)" =
      .ok _ := eq_ok_of_returns numbered
  obtain ⟨command, built⟩ := sendReceiptItem_ok survives converted pin transaction
  obtain ⟨-, itemIndex, data, -, payload, rfl⟩ := sendReceiptItem_eq_ok built
  refine ⟨_, built, ?_⟩
  rw [lineTotal, if_pos rfl]
  exact KraFields.fieldNumber_of_lookup
    (lookup_itemTotal payload (toNumber_reduced_totalAmount member))

/-- An item whose key is no number stops the attempt. -/
theorem sendReceiptItem_of_not_numbered {item : Key × Value}
    (unnumbered : isNumbered item = false) (pin : String) (transaction : Transaction) :
    ∃ thrown, sendReceiptItem pin transaction (reduced item) = .error thrown := by
  cases built : sendReceiptItem pin transaction (reduced item) with
  | error thrown => exact ⟨thrown, rfl⟩
  | ok command =>
      obtain ⟨-, itemIndex, _, converted, -⟩ := sendReceiptItem_eq_ok built
      have numbered : isNumbered item = true := by
        rw [isNumbered, show item.1.toInt _ = .ok itemIndex from converted]
        rfl
      rw [numbered] at unnumbered
      contradiction

/-- The journal command has no line total. -/
theorem filterMap_lineTotal_journal (pin : String) (transaction : Transaction) :
    (sentCommands [sendReceiptJournal pin transaction]).filterMap lineTotal = [] := by
  cases built : sendReceiptJournal pin transaction with
  | error thrown => rfl
  | ok command =>
      obtain ⟨data, -, rfl⟩ := sendReceiptJournal_eq_ok built
      rfl

/-- Item by item, the lines print the rounded totals of the numbered items. -/
theorem filterMap_lineTotal_items {request : AcceptedRequest} {items : Entries}
    (members : ∀ item ∈ items, item ∈ request.givenItems) (pin : String)
    (transaction : Transaction) :
    (sentCommands (items.map (fun item => sendReceiptItem pin transaction (reduced item)) ++
        [sendReceiptJournal pin transaction])).filterMap lineTotal =
      (items.takeWhile isNumbered).map fun item => roundTo 2 (givenTotal item) := by
  induction items with
  | nil => exact filterMap_lineTotal_journal pin transaction
  | cons head tail inductionHypothesis =>
      have others := inductionHypothesis fun item isMember =>
        members item (List.mem_cons_of_mem head isMember)
      cases numbered : isNumbered head with
      | false =>
          obtain ⟨thrown, stopped⟩ :=
            sendReceiptItem_of_not_numbered numbered pin transaction
          simp only [List.map_cons, List.cons_append, stopped, sentCommands,
            List.filterMap_nil, List.takeWhile_cons, numbered, Bool.false_eq_true, if_false,
            List.map_nil]
      | true =>
          obtain ⟨command, built, total⟩ :=
            lineTotal_of_numbered (members head (by simp)) numbered pin transaction
          simp only [List.map_cons, List.cons_append, built, sentCommands,
            List.filterMap_cons, total, List.takeWhile_cons, numbered, if_true, others]

theorem journaledTotal_eq {request : AcceptedRequest} {device : KraDevice}
    {transaction : Transaction} {pin : String} (hasPin : device.pin = .ok pin)
    (stored : transaction.requestPayload = request.validated) :
    journaledTotal device transaction =
      ((numberedItems request).map fun item => roundTo 2 (givenTotal item)).sum := by
  rw [journaledTotal, journalPlan_of_validated hasPin stored, request.items_eq_map,
    List.map_map, numberedItems]
  exact congrArg List.sum
    (filterMap_lineTotal_items (fun _ member => member) pin transaction)

/-! ## Reconciliation -/

/-- Every item is numbered and gives the total the hook computed for it. -/
def GivesComputedTotals (request : AcceptedRequest) : Prop :=
  ∀ item ∈ request.givenItems, isNumbered item = true ∧
    itemTotal (arrayAt request.input "taxRates") item = .ok (givenTotal item)

theorem numberedItems_eq_self {request : AcceptedRequest}
    (allNumbered : ∀ item ∈ request.givenItems, isNumbered item = true) :
    numberedItems request = request.givenItems :=
  List.takeWhile_eq_self_iff.mpr allNumbered

/-- The hook's computed totals, when they are the given ones. -/
theorem eq_map_givenTotal {rates items : Entries} {totals : List ℚ}
    (computed : List.Forall₂ (fun item total => itemTotal rates item = .ok total) items totals)
    (given : ∀ item ∈ items, itemTotal rates item = .ok (givenTotal item)) :
    totals = items.map givenTotal := by
  induction computed with
  | nil => rfl
  | cons first _ inductionHypothesis =>
      have others := inductionHypothesis fun item member =>
        given item (List.mem_cons_of_mem _ member)
      have head := first.symm.trans (given _ (by simp))
      rw [List.map_cons, ← Except.ok.inj head, ← others]

/-- Computed totals reconcile: the hook's tolerance, and one rounding a line. -/
theorem reconcile_of_givesComputedTotals {request : AcceptedRequest}
    (gives : GivesComputedTotals request) :
    |((numberedItems request).map fun item => roundTo 2 (givenTotal item)).sum -
      request.totalAmount| ≤ lineTolerance request := by
  obtain ⟨expected, reconciled⟩ := request.exists_reconciled
  obtain ⟨totals, computed, sum⟩ := foldlM_addItem_total reconciled.loop
  have given : totals = request.givenItems.map givenTotal :=
    eq_map_givenTotal computed fun item member => (gives item member).2
  have total : expected.totalAmount = (request.givenItems.map givenTotal).sum := by
    rw [sum, given]
    exact zero_add _
  have rounding : ∀ item ∈ request.givenItems,
      |roundTo 2 (givenTotal item) - givenTotal item| ≤ 5 / 1000 :=
    fun item _ => abs_roundTo_two_sub_le (givenTotal item)
  have rounded := abs_sum_map_sub_le rounding
  have tolerance := reconciled.total
  rw [total] at tolerance
  rw [numberedItems_eq_self fun item member => (gives item member).1, lineTolerance,
    AcceptedRequest.totalAmount]
  simp only [epsilon] at tolerance
  rw [abs_le] at *
  constructor <;> linarith

/-- No item gives a total. -/
def GivesNoTotals (request : AcceptedRequest) : Prop :=
  ∀ item ∈ request.givenItems, givenTotal item = 0

/-- Without given totals every line says zero. -/
theorem sum_of_givesNoTotals {request : AcceptedRequest} (gives : GivesNoTotals request) :
    ((numberedItems request).map fun item => roundTo 2 (givenTotal item)).sum = 0 := by
  apply List.sum_eq_zero
  intro total member
  obtain ⟨item, isItem, rfl⟩ := List.mem_map.mp member
  have isGiven : item ∈ request.givenItems := (List.takeWhile_sublist _).subset isItem
  rw [gives item isGiven]
  decide +kernel

/-- The line totals of an accepted request reconcile with its total exactly when
the totals its numbered items give do, nothing given counting as zero. They do
when every item gives the total the hook computed; when none gives any, they do
only for receipts worth next to nothing. -/
theorem lines_reconcile_iff {request : AcceptedRequest} {device : KraDevice}
    {transaction : Transaction} {pin : String} (hasPin : device.pin = .ok pin)
    (stored : transaction.requestPayload = request.validated) :
    (LinesReconcile request device transaction ↔
      |((numberedItems request).map fun item => roundTo 2 (givenTotal item)).sum -
        request.totalAmount| ≤ lineTolerance request) ∧
    (GivesComputedTotals request → LinesReconcile request device transaction) ∧
    (GivesNoTotals request →
      (LinesReconcile request device transaction ↔
        |request.totalAmount| ≤ lineTolerance request)) := by
  unfold LinesReconcile
  rw [journaledTotal_eq hasPin stored]
  refine ⟨Iff.rfl, reconcile_of_givesComputedTotals, ?_⟩
  intro gives
  rw [sum_of_givesNoTotals gives, zero_sub, abs_neg]

/-- The theorem at a sale of bread. -/
theorem lines_reconcile_iff_breadSale :
    LinesReconcile AcceptedRequest.breadSale shopDevice
        (breadTransaction AcceptedRequest.breadSale.validated) ↔
      |((numberedItems AcceptedRequest.breadSale).map fun item =>
          roundTo 2 (givenTotal item)).sum - AcceptedRequest.breadSale.totalAmount| ≤
        lineTolerance AcceptedRequest.breadSale :=
  (lines_reconcile_iff (show shopDevice.pin = .ok "P051234567X" from rfl) rfl).1

/-- The one line of a sale of bread for a hundred shillings says zero. -/
theorem breadSale_not_reconciled :
    ¬ LinesReconcile AcceptedRequest.breadSale shopDevice
        (breadTransaction AcceptedRequest.breadSale.validated) := by
  unfold LinesReconcile
  decide +kernel

end TaxGateway.Jobs.ProcessKraJournalingJob
