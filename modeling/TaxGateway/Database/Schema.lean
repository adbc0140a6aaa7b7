import TaxGateway.Foundations.Formats

/-!
Contract: the `transactions` table of the migration, on a strict-mode database.

Owns:
- the attributes of a `KraDevice` the sales and journaling code reads;
- the journal columns and the two `update` calls the journaling job makes, with
  Eloquent's rule that only attributes changed since they were read are written;
- a row with its declared column lengths, the table with its primary key and
  the unique index on (device, receipt number, receipt type, transaction type);
- `insert`, refused exactly when a length or a key is violated.

Does not own: foreign keys, timestamps, the stored response payload (`null`
for an XML answer), or lost connections.
-/

namespace TaxGateway.Database

open TaxGateway.Php

/-- A `KraDevice` model. `taxpayerPin` is the PIN of the related taxpayer row;
`none` when that row is missing. -/
structure KraDevice where
  id : String
  taxpayerPinId : String
  deviceType : String
  config : Value
  taxpayerPin : Option String

/-- `$kraDevice->taxpayerPin->pin`. Reading a property of `null` raises a
warning, hence an exception. -/
def KraDevice.pin (device : KraDevice) : Except Throwable String :=
  match device.taxpayerPin with
  | some pin => .ok pin
  | none => .error (.exception "Attempt to read property pin on null")

/-- A registered OSCU device. -/
def shopDevice : KraDevice :=
  ⟨"0f8fad5b-d9cb-469f-a165-70867728950e", "1", "OSCU", .null, some "P051234567X"⟩

/-! ## Journal columns -/

inductive JournalStatus where
  | PENDING
  | QUEUED
  | COMPLETED
  | FAILED
deriving DecidableEq, Repr

/-- A value of a `VARCHAR(width)` column; strict mode admits no other. -/
structure Varchar (width : Nat) where
  text : String
  fits : text.length ≤ width
deriving DecidableEq

/-- Store a text, or refuse it as too long. -/
def Varchar.ofString? (width : Nat) (text : String) : Option (Varchar width) :=
  if fits : text.length ≤ width then some ⟨text, fits⟩ else none

/-- `journal_status` and `journal_error_message`, as stored or as held in
memory by a loaded model. -/
structure JournalColumns where
  status : JournalStatus
  errorMessage : Option (Varchar 255)
deriving DecidableEq

/-- A row as `Transaction::create` leaves it. -/
def JournalColumns.created : JournalColumns := ⟨.PENDING, none⟩

namespace JournalColumns

/-- The `journal_status` column of a row `stored`, after a model last in step
with `model` was saved with `status`: written only if the model's value
changes. -/
def savedStatus (stored model : JournalColumns) (status : JournalStatus) :
    JournalStatus :=
  if model.status = status then stored.status else status

/-- `$transaction->update(['journal_status' => status])`. The result is the new
row and the new model. -/
def updateStatus (stored model : JournalColumns) (status : JournalStatus) :
    JournalColumns × JournalColumns :=
  (⟨savedStatus stored model status, stored.errorMessage⟩, ⟨status, model.errorMessage⟩)

/-- `$transaction->update(['journal_status' => 'FAILED',
'journal_error_message' => message])`. A changed message that does not fit its
column makes the database reject the whole `UPDATE`: `none`. -/
def updateFailed (stored model : JournalColumns) (message : String) :
    Option (JournalColumns × JournalColumns) :=
  if model.errorMessage.map Varchar.text = some message then
    some (⟨savedStatus stored model .FAILED, stored.errorMessage⟩,
      ⟨.FAILED, model.errorMessage⟩)
  else
    (Varchar.ofString? 255 message).map fun text =>
      (⟨savedStatus stored model .FAILED, some text⟩, ⟨.FAILED, some text⟩)

theorem savedStatus_of_ne {stored model : JournalColumns} {status : JournalStatus}
    (changes : model.status ≠ status) : savedStatus stored model status = status :=
  if_neg changes

/-- The failure `UPDATE` is rejected exactly when the message is too long. -/
theorem updateFailed_eq_none_iff {stored model : JournalColumns} {message : String} :
    stored.updateFailed model message = none ↔ 255 < message.length := by
  unfold updateFailed
  split
  next same =>
    obtain ⟨held, -, rfl⟩ := Option.map_eq_some_iff.mp same
    simpa using held.fits
  next different =>
    unfold Varchar.ofString?
    split
    next fits => simpa using fits
    next tooLong => simpa using tooLong

/-- What the failure `UPDATE` leaves, when it is not rejected. The message is
written unless the model already held it. -/
theorem updateFailed_eq_some {stored model stored' model' : JournalColumns}
    {message : String}
    (updated : stored.updateFailed model message = some (stored', model')) :
    stored'.status = savedStatus stored model .FAILED ∧
      (model.errorMessage.map Varchar.text ≠ some message ∧
          stored'.errorMessage.map Varchar.text = some message ∨
        model.errorMessage.map Varchar.text = some message ∧
          stored'.errorMessage = stored.errorMessage) := by
  unfold updateFailed at updated
  split at updated
  next same =>
    simp only [Option.some.injEq, Prod.mk.injEq] at updated
    obtain ⟨rfl, -⟩ := updated
    exact ⟨rfl, .inr ⟨same, rfl⟩⟩
  next different =>
    obtain ⟨text, stores, pair⟩ := Option.map_eq_some_iff.mp updated
    simp only [Prod.mk.injEq] at pair
    obtain ⟨rfl, -⟩ := pair
    refine ⟨rfl, .inl ⟨different, ?_⟩⟩
    unfold Varchar.ofString? at stores
    split at stores
    next fits => rw [← Option.some.inj stores]; rfl
    next => contradiction

end JournalColumns

/-! ## Rows -/

/-- The attributes of a `Transaction` model. -/
structure Transaction where
  id : String
  kraDeviceId : String
  taxpayerPinId : String
  internalReceiptNumber : String
  receiptType : String
  transactionType : String
  kraScuId : String
  kraReceiptLabel : String
  kraCuInvoiceNumber : String
  kraDigitalSignature : String
  kraInternalData : String
  kraQrCodeUrl : String
  requestPayload : Value
  rawKraRequestXml : String
  rawKraResponseXml : String
  kraTimestamp : DateTime
  journal : JournalColumns

/-- A row of that device, with the given payload. -/
def breadTransaction (requestPayload : Value) : Transaction where
  id := "7d444840-9dc0-11d1-b245-5ffdce74fad2"
  kraDeviceId := shopDevice.id
  taxpayerPinId := shopDevice.taxpayerPinId
  internalReceiptNumber := "INV-1"
  receiptType := "NORMAL"
  transactionType := "SALE"
  kraScuId := "KRACU0100000001"
  kraReceiptLabel := "NS"
  kraCuInvoiceNumber := "KRACU0100000001/INV-1"
  kraDigitalSignature := "V249J39CFJ48HE2W"
  kraInternalData := "TE68SLA234J5EAV3N569J2WE"
  kraQrCodeUrl := "https://etims.kra.go.ke/qr?data=1"
  requestPayload := requestPayload
  rawKraRequestXml := ""
  rawKraResponseXml := ""
  kraTimestamp := ⟨2025, 7, 3, 13, 8, 19⟩
  journal := .created

/-- The declared lengths of the string columns, in characters, and the size of
the `TEXT` ones, in bytes. -/
def Transaction.ColumnsFit (transaction : Transaction) : Prop :=
  transaction.internalReceiptNumber.length ≤ 255 ∧
  transaction.kraScuId.length ≤ 255 ∧
  transaction.kraReceiptLabel.length ≤ 255 ∧
  transaction.kraCuInvoiceNumber.length ≤ 255 ∧
  transaction.kraDigitalSignature.length ≤ 255 ∧
  transaction.kraInternalData.length ≤ 255 ∧
  transaction.kraQrCodeUrl.length ≤ 500 ∧
  transaction.rawKraRequestXml.utf8ByteSize ≤ 65535 ∧
  transaction.rawKraResponseXml.utf8ByteSize ≤ 65535

instance (transaction : Transaction) : Decidable transaction.ColumnsFit := by
  unfold Transaction.ColumnsFit
  infer_instance

/-- The columns of the index `unique_kra_device_internal_txn`. -/
structure ReceiptKey where
  kraDeviceId : String
  internalReceiptNumber : String
  receiptType : String
  transactionType : String
deriving DecidableEq, Repr

/-- The index entry of a row. `collate` is what the column's collation compares
receipt numbers by: the identity, or a case folding. -/
def Transaction.key (collate : String → String) (transaction : Transaction) :
    ReceiptKey :=
  ⟨transaction.kraDeviceId, collate transaction.internalReceiptNumber,
    transaction.receiptType, transaction.transactionType⟩

/-- A stored row. -/
structure Row where
  transaction : Transaction
  fits : transaction.ColumnsFit

/-! ## The table -/

/-- A table whose keys hold: no two rows share an id or an index entry. -/
structure TransactionsTable (collate : String → String) where
  rows : List Row
  uniqueId : (rows.map fun row => row.transaction.id).Nodup
  uniqueKey : (rows.map fun row => row.transaction.key collate).Nodup

namespace TransactionsTable

variable {collate : String → String}

def empty (collate : String → String) : TransactionsTable collate :=
  ⟨[], List.nodup_nil, List.nodup_nil⟩

def singleton (collate : String → String) (row : Row) : TransactionsTable collate :=
  ⟨[row], List.nodup_singleton _, List.nodup_singleton _⟩

/-- The transactions in the table, in the order of their insertion. -/
def stored (table : TransactionsTable collate) : List Transaction :=
  table.rows.map Row.transaction

theorem stored_id_nodup (table : TransactionsTable collate) :
    (table.stored.map Transaction.id).Nodup := by
  simpa [stored, List.map_map, Function.comp_def] using table.uniqueId

theorem stored_key_nodup (table : TransactionsTable collate) :
    (table.stored.map (Transaction.key collate)).Nodup := by
  simpa [stored, List.map_map, Function.comp_def] using table.uniqueKey

/-- `Transaction::find`. -/
def find? (table : TransactionsTable collate) (id : String) : Option Transaction :=
  table.stored.find? fun transaction => transaction.id = id

theorem find?_eq_some {table : TransactionsTable collate} {id : String}
    {transaction : Transaction} (found : table.find? id = some transaction) :
    transaction ∈ table.stored ∧ transaction.id = id :=
  ⟨List.mem_of_find?_eq_some found, by simpa using List.find?_some found⟩

/-- A row is found under its id. -/
theorem eq_of_find? {table : TransactionsTable collate} {found other : Transaction}
    {id : String} (isFound : table.find? id = some found) (member : other ∈ table.stored)
    (sameId : other.id = id) : other = found := by
  obtain ⟨isMember, foundId⟩ := find?_eq_some isFound
  exact List.inj_on_of_nodup_map table.stored_id_nodup member isMember
    (sameId.trans foundId.symm)

/-- The constraints an `INSERT` must meet. -/
def Admits (table : TransactionsTable collate) (transaction : Transaction) : Prop :=
  transaction.ColumnsFit ∧
  transaction.id ∉ table.rows.map (fun row => row.transaction.id) ∧
  transaction.key collate ∉ table.rows.map (fun row => row.transaction.key collate)

instance (table : TransactionsTable collate) (transaction : Transaction) :
    Decidable (table.Admits transaction) := by
  unfold Admits
  infer_instance

/-- `Transaction::create`. -/
def insert (table : TransactionsTable collate) (transaction : Transaction) :
    Except Throwable (TransactionsTable collate) :=
  if admitted : table.Admits transaction then
    .ok
      { rows := table.rows ++ [⟨transaction, admitted.1⟩]
        uniqueId := by
          simpa only [List.map_append, List.map_cons, List.map_nil,
            List.concat_eq_append] using List.Nodup.concat admitted.2.1 table.uniqueId
        uniqueKey := by
          simpa only [List.map_append, List.map_cons, List.map_nil,
            List.concat_eq_append] using List.Nodup.concat admitted.2.2 table.uniqueKey }
  else .error (.exception "SQLSTATE[23000]: Integrity constraint violation")

/-- An accepted `INSERT` adds exactly the given row, at the end. -/
theorem insert_eq_ok {table table' : TransactionsTable collate}
    {transaction : Transaction} (inserted : table.insert transaction = .ok table') :
    table.Admits transaction ∧ table'.stored = table.stored ++ [transaction] := by
  unfold insert at inserted
  split at inserted
  next admitted =>
    obtain rfl := Except.ok.inj inserted
    exact ⟨admitted, by simp [stored]⟩
  next => contradiction

theorem insert_ok_of_admits {table : TransactionsTable collate}
    {transaction : Transaction} (admitted : table.Admits transaction) :
    ∃ table', table.insert transaction = .ok table' := by
  unfold insert
  rw [dif_pos admitted]
  exact ⟨_, rfl⟩

theorem insert_error_of_not_admits {table : TransactionsTable collate}
    {transaction : Transaction} (refused : ¬ table.Admits transaction) :
    ∃ thrown, table.insert transaction = .error thrown := by
  unfold insert
  rw [dif_neg refused]
  exact ⟨_, rfl⟩

/-- Write the journal columns of the row with the given id. -/
def setJournal (table : TransactionsTable collate) (id : String)
    (columns : JournalColumns) : TransactionsTable collate :=
  let write (row : Row) : Row :=
    if row.transaction.id = id then
      ⟨{ row.transaction with journal := columns }, row.fits⟩
    else row
  { rows := table.rows.map write
    uniqueId := by
      have same : ∀ row, (write row).transaction.id = row.transaction.id := by
        intro row
        simp only [write]
        split <;> rfl
      simpa only [List.map_map, Function.comp_def, same] using table.uniqueId
    uniqueKey := by
      have same : ∀ row, (write row).transaction.key collate =
          row.transaction.key collate := by
        intro row
        simp only [write]
        split <;> rfl
      simpa only [List.map_map, Function.comp_def, same] using table.uniqueKey }

theorem stored_setJournal (table : TransactionsTable collate) (id : String)
    (columns : JournalColumns) :
    (table.setJournal id columns).stored =
      table.stored.map fun transaction =>
        if transaction.id = id then { transaction with journal := columns }
        else transaction := by
  simp only [stored, setJournal, List.map_map]
  apply List.map_congr_left
  intro row _
  simp only [Function.comp_apply]
  split <;> rfl

theorem stored_key_setJournal (table : TransactionsTable collate) (id : String)
    (columns : JournalColumns) :
    (table.setJournal id columns).stored.map (Transaction.key collate) =
      table.stored.map (Transaction.key collate) := by
  rw [stored_setJournal, List.map_map]
  apply List.map_congr_left
  intro transaction _
  simp only [Function.comp_apply]
  split <;> rfl

end TransactionsTable

end TaxGateway.Database
