import TaxGateway.Jobs.JournalTotals
import TaxGateway.Journaling.Attempts
import TaxGateway.Sales.TaxFields

/-!
Contract: the `ItemNo` values of the journal of an accepted request.

Owns:
- the row the gateway stores for an accepted request;
- the commands an attempt sends when every exchange is accepted;
- the exact condition on the item keys under which the lines are numbered from
  one, in order, and the attempt ends `COMPLETED`.

Does not own: attempts that a failed exchange cuts short, or a database that
changes the order of a JSON object's keys.
-/

namespace TaxGateway.Journaling

open TaxGateway.Php
open TaxGateway.Validation
open TaxGateway.Database
open TaxGateway.Http
open TaxGateway.Http.ProcessTransactionRequest
open TaxGateway.Services
open TaxGateway.Jobs
open TaxGateway.Jobs.ProcessKraJournalingJob

/-! ## The stored row -/

/-- A row that holds an accepted request, read back as it was written. -/
structure StoredFor (request : AcceptedRequest) (transaction : Transaction) : Prop where
  requestPayload : transaction.requestPayload = request.validated
  receiptType : transaction.receiptType = request.text "receiptType"
  transactionType : transaction.transactionType = request.text "transactionType"

/-- The row made of a signed answer is such a row. -/
theorem storedFor_of_readAnswer {request : AcceptedRequest} {platform : Platform}
    {config : KraConfig} {sale : Sale} {xmlPayload : KraXml}
    {response : HttpResponse} {transaction : Transaction}
    (isRequest : sale.transactionData = request.validated)
    (read : KraSalesService.readAnswer platform config sale xmlPayload response =
      .ok transaction) : StoredFor request transaction := by
  obtain ⟨dataNode, kraTimestamp, rnum, receiptType, transactionType, -, -, -, receipt, kind,
    rfl⟩ := KraSalesService.readAnswer_eq_ok read
  have given : ∀ name ∈ AcceptedRequest.keyNames,
      KraSalesService.textAt sale.transactionData name = .ok (request.text name) :=
    fun _ isKey => Sales.textAt_of_accepted isRequest isKey
  rw [given _ (by simp [AcceptedRequest.keyNames])] at receipt kind
  exact ⟨isRequest, (Except.ok.inj receipt).symm, (Except.ok.inj kind).symm⟩

/-! ## An attempt that nothing stops -/

/-- Every command of a plan is accepted by KRA. -/
def AcceptsAll (job : Job) (network : Nat → Transport) : Prop :=
  ∀ k command, job.plan[k]? = some (.ok command) →
    ∃ response, perform job.platform job.kraApi (network k) (.ok command) = .ok response

/-- With every command accepted, a run returns exactly when every command can be
built. -/
theorem runPlan_ok_iff_built {job : Job} {network : Nat → Transport}
    (accepts : AcceptsAll job network) :
    runPlan job.platform job.kraApi job.plan network = .ok () ↔
      ∀ prepared ∈ job.plan, ∃ command, prepared = .ok command := by
  rw [runPlan_eq_ok_iff]
  constructor
  · intro returns prepared member
    obtain ⟨k, atK⟩ := List.mem_iff_getElem?.mp member
    obtain ⟨response, returned⟩ := returns k prepared atK
    cases prepared with
    | ok command => exact ⟨command, rfl⟩
    | error thrown => simp [perform] at returned
  · intro built k prepared atK
    obtain ⟨command, rfl⟩ := built prepared (List.mem_of_getElem? atK)
    exact accepts k command atK

theorem sentCommands_map_ok (commands : List KraCommand) :
    sentCommands (commands.map Except.ok) = commands := by
  induction commands with
  | nil => rfl
  | cons head tail inductionHypothesis =>
      rw [List.map_cons, sentCommands, inductionHypothesis]

/-- The attempt ends `COMPLETED` exactly when its run returns. -/
theorem handle_completed_iff {job : Job} {network : Nat → Transport}
    {stored : JournalColumns} :
    ((handle job.platform job.kraApi job.device job.transaction network stored).1 = .ok () ∧
        (handle job.platform job.kraApi job.device job.transaction network stored).2.status =
          .COMPLETED) ↔
      runPlan job.platform job.kraApi job.plan network = .ok () := by
  constructor
  · intro completed
    cases ran : runPlan job.platform job.kraApi job.plan network with
    | ok nothing => rfl
    | error thrown =>
        have returned := completed.1
        simp only [handle, finish, Job.plan] at returned ran
        rw [ran] at returned
        dsimp only at returned
        split at returned <;> contradiction
  · intro ran
    rw [handle_of_ok stored ran]
    exact ⟨rfl, rfl⟩

/-! ## The numbers of the lines -/

/-- The `SEND_RECEIPTITEM` commands an attempt sends, every exchange accepted. -/
def sentLines (job : Job) : List KraCommand :=
  (sentCommands job.plan).filter fun command => command.xml.command = "SEND_RECEIPTITEM"

/-- `$itemIndex`: the key of an item, passed to an `int` parameter. -/
def itemIndex (item : Key × Value) : Except Throwable Int :=
  item.1.toInt "sendReceiptItem(): Argument #5 ($itemIndex)"

/-- A line carries the number that follows its item's key. -/
def IsLineOf (item : Key × Value) (command : KraCommand) : Prop :=
  ∃ index, itemIndex item = .ok index ∧ command.itemNo = some (index + 1)

/-- The keys of the items are their places. -/
def KeysInOrder (items : Entries) : Prop :=
  ∀ (k : Nat) (item : Key × Value), items[k]? = some item → itemIndex item = .ok (k : Int)

/-- One, two, and so on. -/
def fromOne (count : Nat) : List (Option Int) :=
  (List.range count).map fun k : Nat => some ((k : Int) + 1)

theorem isLineOf_of_built {pin : String} {transaction : Transaction} {item : Key × Value}
    {command : KraCommand} (built : sendReceiptItem pin transaction item = .ok command) :
    command.xml.command = "SEND_RECEIPTITEM" ∧ IsLineOf item command := by
  obtain ⟨-, index, data, converted, payload, rfl⟩ := sendReceiptItem_eq_ok built
  refine ⟨rfl, index, converted, ?_⟩
  simp only [KraCommand.itemNo, if_true, lookup_itemNo payload, Rat.num_intCast]

/-- Lines are numbered from one exactly when the keys are the places. -/
theorem map_itemNo_eq_iff {items : Entries} {commands : List KraCommand}
    (lines : List.Forall₂ IsLineOf items commands) :
    commands.map KraCommand.itemNo = fromOne items.length ↔ KeysInOrder items := by
  obtain ⟨lengths, each⟩ := List.forall₂_iff_get.mp lines
  constructor
  · intro numbered k item atK
    obtain ⟨below, isItem⟩ := List.getElem?_eq_some_iff.mp atK
    obtain ⟨index, converted, carried⟩ := each k below (by omega)
    have same := congrArg (fun numbers : List (Option Int) => numbers[k]?) numbered
    simp only [fromOne, List.getElem?_map, List.getElem?_range below,
      List.getElem?_eq_getElem (show k < commands.length by omega), Option.map_some,
      List.get_eq_getElem] at same carried
    rw [carried] at same
    have number : index = k := by
      have equal := Option.some.inj (Option.some.inj same)
      omega
    rw [← isItem, ← number]
    exact converted
  · intro inOrder
    apply List.ext_getElem (by simp [fromOne, lengths])
    intro k below _
    have inItems : k < items.length := by simpa [lengths] using below
    obtain ⟨index, converted, carried⟩ := each k inItems (by omega)
    have place := inOrder k items[k] (List.getElem?_eq_getElem inItems)
    have number : index = k := Except.ok.inj (converted.symm.trans place)
    simp only [List.get_eq_getElem] at carried
    simp [fromOne, carried, number]

section Accepted

variable {request : AcceptedRequest} {job : Job} {pin : String}

theorem plan_of_stored (hasPin : job.device.pin = .ok pin)
    (stored : StoredFor request job.transaction) :
    job.plan = request.items.map (sendReceiptItem pin job.transaction) ++
      [sendReceiptJournal pin job.transaction] :=
  journalPlan_of_validated hasPin stored.requestPayload

/-- The journal command of an accepted request can always be built. -/
theorem sendReceiptJournal_ok (stored : StoredFor request job.transaction) (pin : String) :
    ∃ command, sendReceiptJournal pin job.transaction = .ok command := by
  obtain ⟨rtype, ttype, payload⟩ := Sales.journalPayload_of_accepted stored.requestPayload
    stored.receiptType stored.transactionType
  refine ⟨⟨"/api/journal/receipt", ⟨pin, "SEND_RECEIPT", _⟩⟩, bind_eq_ok.mpr ⟨_, payload,
    bind_eq_ok.mpr ⟨_, buildKraXml_eq_ok.mpr ⟨?_, rfl⟩, rfl⟩⟩⟩
  rw [List.any_append, Bool.or_eq_false_iff]
  refine ⟨rfl, List.any_eq_false.mpr ?_⟩
  intro field member
  obtain ⟨map, -, written⟩ := List.mem_flatMap.mp member
  unfold Sales.journaledFields at written
  split at written
  next => simp [KraFields.isArray_taxFields written]
  next => simp at written

/-- When every command can be built, each item has its line. -/
theorem sentLines_of_built (hasPin : job.device.pin = .ok pin)
    (stored : StoredFor request job.transaction)
    (built : ∀ prepared ∈ job.plan, ∃ command, prepared = .ok command) :
    List.Forall₂ IsLineOf request.items (sentLines job) := by
  have plan := plan_of_stored hasPin stored
  obtain ⟨commands, mapped⟩ := mapM_returns_iff.mpr fun item isItem =>
    built (sendReceiptItem pin job.transaction item) (by
      rw [plan]
      exact List.mem_append_left _ (List.mem_map_of_mem isItem))
  have pairs := mapM_eq_ok mapped
  have each : request.items.map (sendReceiptItem pin job.transaction) =
      commands.map Except.ok := by
    have equal := pairs.imp fun item command built => built
    rw [← List.forall₂_eq_eq_eq]
    exact List.forall₂_map_left_iff.mpr (List.forall₂_map_right_iff.mpr equal)
  obtain ⟨journal, journalBuilt⟩ := sendReceiptJournal_ok stored pin
  have sent : sentCommands job.plan = commands ++ [journal] := by
    rw [plan, each, journalBuilt, ← sentCommands_map_ok (commands ++ [journal]),
      List.map_append]
    rfl
  have isLine : ∀ command ∈ commands, command.xml.command = "SEND_RECEIPTITEM" := by
    intro command member
    obtain ⟨item, -, built⟩ := exists_source_of_mapM_eq_ok mapped member
    exact (isLineOf_of_built built).1
  obtain ⟨data, -, rfl⟩ := sendReceiptJournal_eq_ok journalBuilt
  have lines : sentLines job = commands := by
    rw [sentLines, sent, List.filter_append, List.filter_eq_self.mpr (by simpa using isLine)]
    simp
  rw [lines]
  exact pairs.imp fun item command built => (isLineOf_of_built built).2

/-- Keys that are places let every command be built. -/
theorem built_of_keysInOrder (hasPin : job.device.pin = .ok pin)
    (stored : StoredFor request job.transaction) (inOrder : KeysInOrder request.items) :
    ∀ prepared ∈ job.plan, ∃ command, prepared = .ok command := by
  intro prepared member
  rw [plan_of_stored hasPin stored] at member
  rcases List.mem_append.mp member with ofItem | ofJournal
  · obtain ⟨item, isItem, rfl⟩ := List.mem_map.mp ofItem
    obtain ⟨k, atK⟩ := List.mem_iff_getElem?.mp isItem
    exact sendReceiptItem_ok isItem (inOrder k item atK) pin job.transaction
  · obtain rfl := List.mem_singleton.mp ofJournal
    exact sendReceiptJournal_ok stored pin

theorem keysInOrder_items_iff :
    KeysInOrder request.items ↔ KeysInOrder request.givenItems := by
  simp only [KeysInOrder, request.items_eq_map, List.getElem?_map]
  constructor
  · intro inOrder k item atK
    exact inOrder k (item.1, .arr (validatedFields itemFields (fieldsOf item.2)))
      (by rw [atK]; rfl)
  · intro inOrder k item atK
    obtain ⟨given, atGiven, rfl⟩ := Option.map_eq_some_iff.mp atK
    exact inOrder k given atGiven

/-- With every command accepted, an attempt for a request of `n` items sends `n`
lines numbered from one to `n` and ends `COMPLETED` exactly when the key of each
item is its place. -/
theorem item_numbers_iff (hasPin : job.device.pin = .ok pin)
    (stored : StoredFor request job.transaction) {network : Nat → Transport}
    (accepts : AcceptsAll job network) (columns : JournalColumns) :
    ((sentLines job).map KraCommand.itemNo = fromOne request.givenItems.length ∧
        (handle job.platform job.kraApi job.device job.transaction network columns).1 =
          .ok () ∧
        (handle job.platform job.kraApi job.device job.transaction network columns).2.status =
          .COMPLETED) ↔
      KeysInOrder request.givenItems := by
  have count : request.items.length = request.givenItems.length := by
    rw [request.items_eq_map, List.length_map]
  rw [handle_completed_iff, runPlan_ok_iff_built accepts, ← count, ← keysInOrder_items_iff]
  constructor
  · intro both
    obtain ⟨numbered, built⟩ := both
    exact (map_itemNo_eq_iff (sentLines_of_built hasPin stored built)).mp numbered
  · intro inOrder
    have built := built_of_keysInOrder hasPin stored inOrder
    exact ⟨(map_itemNo_eq_iff (sentLines_of_built hasPin stored built)).mpr inOrder, built⟩

end Accepted

/-- The job of a stored request, with the answers of the bread job. -/
def jobOf (request : AcceptedRequest) : Job :=
  { breadJob with transaction := breadTransaction request.validated }

theorem jobOf_acceptsAll (request : AcceptedRequest) :
    AcceptsAll (jobOf request) fun _ => .answered acknowledged := by
  intro k command _
  exact ⟨acknowledged, rfl⟩

theorem item_numbers_iff_breadSale :
    StoredFor AcceptedRequest.breadSale (jobOf AcceptedRequest.breadSale).transaction ∧
      (((sentLines (jobOf AcceptedRequest.breadSale)).map KraCommand.itemNo =
            fromOne AcceptedRequest.breadSale.givenItems.length ∧
          (handle breadJob.platform breadJob.kraApi shopDevice
            (breadTransaction AcceptedRequest.breadSale.validated)
            (fun _ => .answered acknowledged) .created).1 = .ok () ∧
          (handle breadJob.platform breadJob.kraApi shopDevice
            (breadTransaction AcceptedRequest.breadSale.validated)
            (fun _ => .answered acknowledged) .created).2.status = .COMPLETED) ↔
        KeysInOrder AcceptedRequest.breadSale.givenItems) :=
  have stored : StoredFor AcceptedRequest.breadSale
      (jobOf AcceptedRequest.breadSale).transaction := ⟨rfl, rfl, rfl⟩
  ⟨stored, item_numbers_iff (show (jobOf AcceptedRequest.breadSale).device.pin =
    .ok "P051234567X" from rfl) stored (jobOf_acceptsAll _) .created⟩

/-- One item under the key `first`: nothing is sent, and the attempt throws. -/
theorem keyedBreadSale_not_numbered :
    StoredFor AcceptedRequest.keyedBreadSale
        (jobOf AcceptedRequest.keyedBreadSale).transaction ∧
      AcceptsAll (jobOf AcceptedRequest.keyedBreadSale) (fun _ => .answered acknowledged) ∧
      (sentLines (jobOf AcceptedRequest.keyedBreadSale)).map KraCommand.itemNo ≠
        fromOne AcceptedRequest.keyedBreadSale.givenItems.length := by
  refine ⟨⟨rfl, rfl, rfl⟩, jobOf_acceptsAll _, ?_⟩
  decide +kernel

end TaxGateway.Journaling
