import TaxGateway.Database.Schema
import TaxGateway.Services.KraApi
import TaxGateway.Services.KraFields

/-!
Contract: `ProcessKraJournalingJob`, the asynchronous half of a sale.

Owns:
- the payload of every `SEND_RECEIPTITEM` and of the final `SEND_RECEIPT`;
- `journalPlan`, the calls one attempt makes when nothing stops it, each either
  a command or the throwable raised while it is built;
- `handle` and `failed` as one uninterrupted call on the journal columns.

Does not own: overlapping attempts, or the retry policy of the queue.
-/

namespace TaxGateway.Jobs

open TaxGateway.Php
open TaxGateway.Database
open TaxGateway.Services

/-- The arguments of one `sendCommand` call. -/
structure KraCommand where
  endpoint : String
  xml : KraXml
deriving Repr

namespace KraCommand

/-- The `ItemNo` a `SEND_RECEIPTITEM` carries. -/
def itemNo (command : KraCommand) : Option Int :=
  if command.xml.command = "SEND_RECEIPTITEM" then
    match command.xml.data.lookup "ItemNo" with
    | some (.num value) => some value.num
    | _ => none
  else none

def isJournal (command : KraCommand) : Bool :=
  command.xml.command = "SEND_RECEIPT"

end KraCommand

/-- A step of the journal up to its `sendCommand` call: the command, or what is
thrown while it is built. -/
abbrev Prepared := Except Throwable KraCommand

namespace ProcessKraJournalingJob

def getKraReceiptType : String → Except Throwable String :=
  KraFields.getKraReceiptType

def getKraTransactionType : String → Except Throwable String :=
  KraFields.getKraTransactionType

def formatTaxDataForKraXml : Value → String → Except Throwable (List (String × Value)) :=
  KraFields.formatTaxDataForKraXml

/-! ## Item commands -/

/-- `if (!empty($item[key])) $payload[field] = number_format($item[key], 2, …)`. -/
def optionalAmount (item : Value) (key field : String) :
    Except Throwable (List (String × Value)) :=
  let amount := item.coalesce key .null
  if amount.isEmpty then .ok []
  else do
    let number ← amount.toNumber
    return [(field, .str (numberFormat 2 number))]

/-- The fields every `$receiptItemPayload` has. -/
def receiptItemFields (transaction : Transaction) (item : Value) (itemIndex : Int)
    (itemPrice itemTotal : ℚ) : List (String × Value) :=
  [("RNum", .str transaction.internalReceiptNumber),
    ("ItemNo", .num ((itemIndex + 1 : Int) : ℚ)),
    ("ItemName", item.coalesce "name" (.str "Unknown Item")),
    ("ItemCode", item.coalesce "code" (.str "")),
    ("ItemQuantity", item.coalesce "quantity" (.num 1)),
    ("ItemPrice", .str (numberFormat 2 itemPrice)),
    ("ItemTotal", .str (numberFormat 2 itemTotal))]

/-- `$receiptItemPayload`. -/
def receiptItemPayload (transaction : Transaction) (item : Value) (itemIndex : Int) :
    Except Throwable (List (String × Value)) := do
  let itemPrice ← (item.coalesce "unitPrice" (.num 0)).toNumber
  let itemTotal ← (item.coalesce "totalAmount" (.num 0)).toNumber
  let taxRate ← optionalAmount item "taxRate" "ItemTaxRate"
  let taxAmount ← optionalAmount item "taxAmount" "ItemTaxAmount"
  return receiptItemFields transaction item itemIndex itemPrice itemTotal ++
    taxRate ++ taxAmount

/-- `sendReceiptItem` for one entry of `items`. Its `array $item` and
`int $itemIndex` parameters are checked before anything else. -/
def sendReceiptItem (pin : String) (transaction : Transaction) (entry : Key × Value) :
    Prepared :=
  if entry.2.isArray then do
    let itemIndex ← entry.1.toInt "sendReceiptItem(): Argument #5 ($itemIndex)"
    let data ← receiptItemPayload transaction entry.2 itemIndex
    let xml ← buildKraXml pin "SEND_RECEIPTITEM" data
    return ⟨"/api/journal/receipt-item", xml⟩
  else .error (.error "sendReceiptItem(): Argument #4 ($item) must be of type array")

/-! ## The journal command -/

/-- `if (!empty($requestPayload[key])) … array_merge(…)`. -/
def taxTotals (requestPayload : Value) (key typeSuffix : String) :
    Except Throwable (List (String × Value)) :=
  let taxData := requestPayload.coalesce key .null
  if taxData.isEmpty then .ok [] else formatTaxDataForKraXml taxData typeSuffix

/-- `$journalPayload`. -/
def journalPayload (transaction : Transaction) :
    Except Throwable (List (String × Value)) := do
  let rtype ← getKraReceiptType transaction.receiptType
  let ttype ← getKraTransactionType transaction.transactionType
  let taxRates ← taxTotals transaction.requestPayload "taxRates" "Rate"
  let taxableAmounts ← taxTotals transaction.requestPayload "taxableAmounts" "Amount"
  let calculatedTaxes ← taxTotals transaction.requestPayload "calculatedTaxes" "Tax"
  return [("RNum", .str transaction.internalReceiptNumber), ("Rtype", .str rtype),
    ("TType", .str ttype), ("Date", .str transaction.kraTimestamp.formatDate),
    ("Time", .str transaction.kraTimestamp.formatTime),
    ("SNumber", .str transaction.kraScuId),
    ("Signature", .str transaction.kraDigitalSignature),
    ("InternalData", .str transaction.kraInternalData)] ++
    taxRates ++ taxableAmounts ++ calculatedTaxes

/-- `sendReceiptJournal`. -/
def sendReceiptJournal (pin : String) (transaction : Transaction) : Prepared := do
  let data ← journalPayload transaction
  let xml ← buildKraXml pin "SEND_RECEIPT" data
  return ⟨"/api/journal/receipt", xml⟩

/-! ## The plan of an attempt -/

/-- What the item loop runs over: nothing when `items` is `empty`. -/
def itemEntries (requestPayload : Value) : Except Throwable Entries :=
  let items := requestPayload.coalesce "items" .null
  if items.isEmpty then .ok []
  else
    match items with
    | .arr entries => .ok entries
    | _ => .error (.exception "foreach() argument must be of type array|object")

/-- The body of the `try` block up to the last status update, step by step. -/
def journalPlan (device : KraDevice) (transaction : Transaction) : List Prepared :=
  match device.pin, itemEntries transaction.requestPayload with
  | .error thrown, _ => [.error thrown]
  | .ok _, .error thrown => [.error thrown]
  | .ok pin, .ok entries =>
      entries.map (sendReceiptItem pin transaction) ++ [sendReceiptJournal pin transaction]

/-! ## Attempts -/

/-- Make one step, the HTTP exchange it may need ending as given. -/
def perform (platform : Platform) (kraApi : KraApi) (transport : Transport) :
    Prepared → Except Thrown HttpResponse
  | .error thrown => .error (.php thrown)
  | .ok command =>
      KraApi.sendCommand platform kraApi command.endpoint command.xml false fun _ => transport

/-- Make the steps of a plan until one throws. `network n` is what becomes of
the exchange of step `n`. -/
def runPlan (platform : Platform) (kraApi : KraApi) :
    List Prepared → (Nat → Transport) → Except Thrown Unit
  | [], _ => .ok ()
  | prepared :: rest, network =>
      match perform platform kraApi (network 0) prepared with
      | .error thrown => .error thrown
      | .ok _ => runPlan platform kraApi rest fun n => network (n + 1)

/-- The text of the `QueryException` for a message that does not fit. It quotes the
statement with its values, and so is longer than the message; the clock and the id that
follow the message there are left out. -/
def dataTooLong (message : String) : String :=
  "SQLSTATE[22001]: String data, right truncated: 1406 Data too long for column " ++
    "'journal_error_message' at row 1 (Connection: mysql, SQL: update `transactions` set " ++
    "`journal_status` = FAILED, `journal_error_message` = " ++ message ++ ")"

/-- The `catch (\Exception $e)` block: what leaves it, and the row it leaves. -/
def catchException (stored model : JournalColumns) (thrown : Thrown) :
    Thrown × JournalColumns :=
  match stored.updateFailed model thrown.message with
  | some (saved, _) => (thrown, saved)
  | none => (.php (.exception (dataTooLong thrown.message)), stored)

/-- How the `try` statement of `handle` ends once its steps have. -/
def finish (stored model : JournalColumns) :
    Except Thrown Unit → Except Thrown Unit × JournalColumns
  | .ok () => (.ok (), (stored.updateStatus model .COMPLETED).1)
  | .error thrown =>
      if thrown.isException then
        let left := catchException stored model thrown
        (.error left.1, left.2)
      else (.error thrown, stored)

/-- `handle` on a row nobody else writes meanwhile. -/
def handle (platform : Platform) (kraApi : KraApi) (device : KraDevice)
    (transaction : Transaction) (network : Nat → Transport) (stored : JournalColumns) :
    Except Thrown Unit × JournalColumns :=
  let queued := stored.updateStatus stored .QUEUED
  finish queued.1 queued.2
    (runPlan platform kraApi (journalPlan device transaction) network)

/-- `failed` for an existing transaction. -/
def failed (exception : Thrown) (stored : JournalColumns) :
    Except Thrown Unit × JournalColumns :=
  match stored.updateFailed stored exception.message with
  | some (saved, _) => (.ok (), saved)
  | none => (.error (.php (.exception (dataTooLong exception.message))), stored)

/-! ## What a built command looks like -/

theorem sendReceiptItem_eq_ok {pin : String} {transaction : Transaction}
    {entry : Key × Value} {command : KraCommand}
    (built : sendReceiptItem pin transaction entry = .ok command) :
    entry.2.isArray = true ∧
      ∃ itemIndex data,
        entry.1.toInt "sendReceiptItem(): Argument #5 ($itemIndex)" = .ok itemIndex ∧
        receiptItemPayload transaction entry.2 itemIndex = .ok data ∧
        command = ⟨"/api/journal/receipt-item", ⟨pin, "SEND_RECEIPTITEM", data⟩⟩ := by
  unfold sendReceiptItem at built
  split at built
  next isArray =>
    obtain ⟨itemIndex, converted, built⟩ := bind_eq_ok.mp built
    obtain ⟨data, payload, built⟩ := bind_eq_ok.mp built
    obtain ⟨xml, xmlBuilt, returned⟩ := bind_eq_ok.mp built
    obtain ⟨-, rfl⟩ := buildKraXml_eq_ok.mp xmlBuilt
    exact ⟨isArray, itemIndex, data, converted, payload, (Except.ok.inj returned).symm⟩
  next => contradiction

theorem receiptItemPayload_eq_ok {transaction : Transaction} {item : Value}
    {itemIndex : Int} {data : List (String × Value)}
    (built : receiptItemPayload transaction item itemIndex = .ok data) :
    ∃ itemPrice itemTotal taxRate taxAmount,
      (item.coalesce "unitPrice" (.num 0)).toNumber = .ok itemPrice ∧
      (item.coalesce "totalAmount" (.num 0)).toNumber = .ok itemTotal ∧
      optionalAmount item "taxRate" "ItemTaxRate" = .ok taxRate ∧
      optionalAmount item "taxAmount" "ItemTaxAmount" = .ok taxAmount ∧
      data = receiptItemFields transaction item itemIndex itemPrice itemTotal ++
        taxRate ++ taxAmount := by
  obtain ⟨itemPrice, price, built⟩ := bind_eq_ok.mp built
  obtain ⟨itemTotal, total, built⟩ := bind_eq_ok.mp built
  obtain ⟨taxRate, rate, built⟩ := bind_eq_ok.mp built
  obtain ⟨taxAmount, tax, returned⟩ := bind_eq_ok.mp built
  exact ⟨itemPrice, itemTotal, taxRate, taxAmount, price, total, rate, tax,
    (Except.ok.inj returned).symm⟩

/-- A field every line has is found there, whatever the tax fields are. -/
theorem lookup_of_fields {fields taxes : List (String × Value)} {key : String}
    {value : Value} (found : fields.lookup key = some value) :
    (fields ++ taxes).lookup key = some value := by
  rw [List.lookup_append, found]
  rfl

theorem lookup_itemNo {transaction : Transaction} {item : Value} {itemIndex : Int}
    {data : List (String × Value)}
    (built : receiptItemPayload transaction item itemIndex = .ok data) :
    data.lookup "ItemNo" = some (.num ((itemIndex + 1 : Int) : ℚ)) := by
  obtain ⟨_, _, _, _, -, -, -, -, rfl⟩ := receiptItemPayload_eq_ok built
  exact lookup_of_fields (lookup_of_fields rfl)

theorem sendReceiptJournal_eq_ok {pin : String} {transaction : Transaction}
    {command : KraCommand} (built : sendReceiptJournal pin transaction = .ok command) :
    ∃ data, journalPayload transaction = .ok data ∧
      command = ⟨"/api/journal/receipt", ⟨pin, "SEND_RECEIPT", data⟩⟩ := by
  obtain ⟨data, payload, built⟩ := bind_eq_ok.mp built
  obtain ⟨xml, xmlBuilt, returned⟩ := bind_eq_ok.mp built
  obtain ⟨-, rfl⟩ := buildKraXml_eq_ok.mp xmlBuilt
  exact ⟨data, payload, (Except.ok.inj returned).symm⟩

/-! ## What an attempt does -/

section Attempts

variable {platform : Platform} {kraApi : KraApi}

/-- The first step that throws, with all the steps before it, is the whole
story of a run that throws. -/
theorem runPlan_eq_error_iff {plan : List Prepared} {network : Nat → Transport}
    {thrown : Thrown} :
    runPlan platform kraApi plan network = .error thrown ↔
      ∃ k prepared, plan[k]? = some prepared ∧
        (∀ j < k, ∀ earlier, plan[j]? = some earlier →
          ∃ response, perform platform kraApi (network j) earlier = .ok response) ∧
        perform platform kraApi (network k) prepared = .error thrown := by
  induction plan generalizing network with
  | nil => simp [runPlan]
  | cons head tail inductionHypothesis =>
      cases first : perform platform kraApi (network 0) head with
      | error other =>
          simp only [runPlan, first, Except.error.injEq]
          constructor
          · rintro rfl
            refine ⟨0, head, rfl, ?_, first⟩
            intro j below
            omega
          · rintro ⟨k, prepared, atK, before, fails⟩
            cases k with
            | zero =>
                obtain rfl := Option.some.inj atK
                exact Except.error.inj (first.symm.trans fails)
            | succ k =>
                obtain ⟨response, returned⟩ := before 0 (by omega) head rfl
                rw [first] at returned
                contradiction
      | ok response =>
          simp only [runPlan, first, inductionHypothesis]
          constructor
          · rintro ⟨k, prepared, atK, before, fails⟩
            refine ⟨k + 1, prepared, atK, ?_, fails⟩
            intro j below earlier atJ
            cases j with
            | zero =>
                obtain rfl := Option.some.inj atJ
                exact ⟨response, first⟩
            | succ j => exact before j (by omega) earlier atJ
          · rintro ⟨k, prepared, atK, before, fails⟩
            cases k with
            | zero =>
                obtain rfl := Option.some.inj atK
                rw [first] at fails
                contradiction
            | succ k =>
                refine ⟨k, prepared, atK, ?_, fails⟩
                intro j below earlier atJ
                exact before (j + 1) (by omega) earlier atJ

/-- A run returns exactly when each of its steps does. -/
theorem runPlan_eq_ok_iff {plan : List Prepared} {network : Nat → Transport} :
    runPlan platform kraApi plan network = .ok () ↔
      ∀ k prepared, plan[k]? = some prepared →
        ∃ response, perform platform kraApi (network k) prepared = .ok response := by
  induction plan generalizing network with
  | nil => simp [runPlan]
  | cons head tail inductionHypothesis =>
      cases first : perform platform kraApi (network 0) head with
      | error thrown =>
          simp only [runPlan, first, reduceCtorEq, false_iff]
          intro returns
          obtain ⟨response, returned⟩ := returns 0 head rfl
          rw [first] at returned
          contradiction
      | ok response =>
          simp only [runPlan, first, inductionHypothesis]
          constructor
          · intro others k prepared atK
            cases k with
            | zero =>
                obtain rfl := Option.some.inj atK
                exact ⟨response, first⟩
            | succ k => exact others k prepared atK
          · intro returns k prepared atK
            exact returns (k + 1) prepared atK

variable {device : KraDevice} {transaction : Transaction} {network : Nat → Transport}

/-- An attempt first makes the row `QUEUED`, whatever it was. -/
theorem updateStatus_self (stored : JournalColumns) (status : JournalStatus) :
    stored.updateStatus stored status =
      (⟨status, stored.errorMessage⟩, ⟨status, stored.errorMessage⟩) := by
  simp only [JournalColumns.updateStatus, JournalColumns.savedStatus]
  split
  next same => rw [same]
  next => rfl

/-- An attempt whose steps all return ends `COMPLETED`, and keeps the message. -/
theorem handle_of_ok (stored : JournalColumns)
    (ran : runPlan platform kraApi (journalPlan device transaction) network = .ok ()) :
    handle platform kraApi device transaction network stored =
      (.ok (), ⟨.COMPLETED, stored.errorMessage⟩) := by
  simp [handle, finish, ran, updateStatus_self]

/-- An `\Error` passes the `catch` block by. -/
theorem handle_of_error (stored : JournalColumns) {thrown : Thrown}
    (ran : runPlan platform kraApi (journalPlan device transaction) network =
      .error thrown) (isError : thrown.isException = false) :
    handle platform kraApi device transaction network stored =
      (.error thrown, ⟨.QUEUED, stored.errorMessage⟩) := by
  simp [handle, finish, ran, isError, updateStatus_self]

/-- An `\Exception` is recorded when its message fits. -/
theorem handle_of_exception (stored : JournalColumns) {thrown : Thrown}
    (ran : runPlan platform kraApi (journalPlan device transaction) network =
      .error thrown) (isException : thrown.isException = true)
    (fits : thrown.message.length ≤ 255) :
    (handle platform kraApi device transaction network stored).1 = .error thrown ∧
      (handle platform kraApi device transaction network stored).2.status = .FAILED ∧
      (handle platform kraApi device transaction network stored).2.errorMessage.map
        Varchar.text = some thrown.message := by
  simp only [handle, finish, ran, isException, if_true, updateStatus_self, catchException]
  split
  next saved model updated =>
    obtain ⟨status, message⟩ := JournalColumns.updateFailed_eq_some updated
    refine ⟨rfl, ?_, ?_⟩
    · rw [status]
      exact JournalColumns.savedStatus_of_ne nofun
    · rcases message with ⟨-, written⟩ | ⟨same, kept⟩
      · exact written
      · rw [kept]
        exact same
  next rejected =>
    have tooLong := JournalColumns.updateFailed_eq_none_iff.mp rejected
    omega

/-- The failure update of an `\Exception` with a longer message is rejected, and
the row stays `QUEUED`. -/
theorem handle_of_tooLong (stored : JournalColumns) {thrown : Thrown}
    (ran : runPlan platform kraApi (journalPlan device transaction) network =
      .error thrown) (isException : thrown.isException = true)
    (tooLong : 255 < thrown.message.length) :
    handle platform kraApi device transaction network stored =
      (.error (.php (.exception (dataTooLong thrown.message))),
        ⟨.QUEUED, stored.errorMessage⟩) := by
  simp [handle, finish, ran, isException, updateStatus_self, catchException,
    JournalColumns.updateFailed_eq_none_iff.mpr tooLong]

end Attempts

end ProcessKraJournalingJob

end TaxGateway.Jobs
