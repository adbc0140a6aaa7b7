import TaxGateway.Access.Tenancy
import TaxGateway.Sales.Recording

/-!
Contract: what the answers to sales promise about the table and the queue.

Owns:
- which requests touch neither receipts nor queue: all but sales;
- what a sale does to them, for each way it ends;
- that in every run the rows added, the jobs queued and the answers given account for
  one another.

Does not own: what becomes of a queued job.
-/

namespace TaxGateway.Access

open TaxGateway.Php
open TaxGateway.Validation
open TaxGateway.Database
open TaxGateway.Effects
open TaxGateway.Transitions
open TaxGateway.Services
open TaxGateway.Services.Session
open TaxGateway.Exceptions
open TaxGateway.Http
open TaxGateway.Client (OnlySends)

variable {collate : String → String}

/-! ## Everything but a sale -/

/-- Neither receipts nor queue are touched. -/
structure SameReceipts (session session' : Session collate) : Prop where
  sameTransactions : session'.gateway.transactions = session.gateway.transactions
  sameJobs : session'.gateway.jobs = session.gateway.jobs

theorem sameReceipts_of_onlySends {pin : String} {session session' : Session collate}
    (onlySends : OnlySends pin session session') : SameReceipts session session' :=
  ⟨onlySends.sameTransactions, onlySends.sameJobs⟩

instance : IsPreorder (Session collate) SameReceipts where
  refl _ := ⟨rfl, rfl⟩
  trans _ _ _ := fun first second =>
    ⟨second.sameTransactions.trans first.sameTransactions, second.sameJobs.trans first.sameJobs⟩

section Services

variable {world : World}

theorem sameReceipts_getDeviceStatus (session : Session collate) (row : KraDeviceRow) :
    SameReceipts session (exec (KraDeviceService.getDeviceStatus world row) session).2 :=
  Client.getDeviceStatus_relates world (fun _ _ _ _ => sameReceipts_of_onlySends)
    fun _ _ _ => ⟨rfl, rfl⟩

theorem sameReceipts_initializeDevice (session : Session collate) (data : Entries) :
    SameReceipts session (exec (KraDeviceService.initializeDevice world data) session).2 := by
  cases accepted : KraDeviceService.readActivation session.tenants (.arr data) with
  | error thrown =>
      rw [Client.exec_initializeDevice_of_unread accepted]
      exact Std.Refl.refl session
  | ok activation =>
      rw [Devices.exec_initializeDevice_of_sent accepted]
      cases Devices.settled world session.tenants activation
        (Devices.activationUrl world session activation)
        (Devices.activationOutcome world session activation) <;> exact ⟨rfl, rfl⟩

end Services

/-- A sale. -/
def IsSale (arrival : Arrival) : Prop :=
  arrival.request.route = .endpoint .processTransaction

section Requests

variable {installation : Installation} {arrival : Arrival} {session : Session collate}

theorem sameReceipts_of_noSale (noSale : ¬ IsSale arrival) :
    SameReceipts session (installation.leaves arrival session) := by
  cases isAction : installation.action arrival session with
  | none =>
      rw [leaves_of_noAction isAction]
      exact Std.Refl.refl session
  | some action =>
      rw [leaves_of_action isAction]
      obtain ⟨client, -, isAdmitted⟩ := Option.bind_eq_some_iff.mp isAction
      rcases admitted_cases isAdmitted with
        ⟨-, -, -, rfl⟩ | ⟨endpoint, device, isRoute, served, rfl⟩
      · rw [KraDeviceController.initializeKraDevice, exec_bind_ok (exec_get session),
          exec_bind_pure]
        exact sameReceipts_initializeDevice session _
      · by_cases isCheck : endpoint = .deviceStatus
        · subst isCheck
          rw [serve, KraDeviceController.getStatus, exec_bind_pure]
          exact sameReceipts_getDeviceStatus session device
        · obtain ⟨owner, owns, -⟩ := owns_of_served served
          refine sameReceipts_of_onlySends (serve_onlySends owns _ _ ?_ isCheck)
          rintro rfl
          exact noSale isRoute

/-! ## A sale -/

/-- The text of a field of a sale, as its row gets it. -/
def inputText (input : Entries) (name : String) : Option String :=
  (read input name).bind fun value => value.toText.toOption

/-- The key of the row of a sale, as its request names it. -/
def receiptKey (collate : String → String) (request : ApiRequest) : Option ReceiptKey := do
  let kraDeviceId ← boundText (request.value "gatewayDeviceId")
  let internalReceiptNumber ← inputText request.input "internalReceiptNumber"
  let receiptType ← inputText request.input "receiptType"
  let transactionType ← inputText request.input "transactionType"
  return ⟨kraDeviceId, collate internalReceiptNumber, receiptType, transactionType⟩

/-- What is validated of a leaf is what was given. -/
theorem inputText_of_textAt {lookups : ProcessTransactionRequest.Lookups} {input : Entries}
    {name text : String} (rules : List Rule)
    (isRule : .leaf ⟨name, rules⟩ ∈ ProcessTransactionRequest.rules lookups input)
    (isText : KraSalesService.textAt (.arr (validatedSchema
      (ProcessTransactionRequest.rules lookups input) input)) name = .ok text) :
    inputText input name = some text := by
  have distinct : ((ProcessTransactionRequest.rules lookups input).map Attribute.name).Nodup := by
    simp [ProcessTransactionRequest.rules, Attribute.name, Attribute.field]
  have kept : (validatedSchema (ProcessTransactionRequest.rules lookups input) input).lookup
      (.str name) = read input name :=
    lookup_validatedSchema_of_mem distinct isRule input
  rw [KraSalesService.textAt, Value.index, kept] at isText
  unfold inputText
  cases given : read input name with
  | none =>
      rw [given] at isText
      cases isText
  | some value =>
      rw [given] at isText
      have isText : value.toText = .ok text := isText
      rw [Option.bind_some, isText]
      rfl

/-- The row that a sale records: under the id it was given, for the device, with the number
and the types of the input. -/
structure RecordedFor (world : World) (device : KraDeviceRow) (input : Entries)
    (transaction : Transaction) : Prop where
  hasId : transaction.id = world.uuid
  ofDevice : transaction.kraDeviceId = device.id
  ofTaxpayer : transaction.taxpayerPinId = device.taxpayerPinId
  hasNumber : inputText input "internalReceiptNumber" = some transaction.internalReceiptNumber
  hasReceiptType : inputText input "receiptType" = some transaction.receiptType
  hasTransactionType : inputText input "transactionType" = some transaction.transactionType

/-- A row for the request's device and receipt, whose taxpayer its client may act for, under
the id the request was given. -/
structure RowOf (collate : String → String) (installation : Installation) (arrival : Arrival)
    (database : Tenants) (transaction : Transaction) : Prop where
  hasId : transaction.id = arrival.world.uuid
  hasKey : receiptKey collate arrival.request = some (transaction.key collate)
  ofClient : ∃ client owner, installation.client arrival = some client ∧
    owner ∈ database.taxpayerPins ∧ MayActFor database client owner ∧
    transaction.taxpayerPinId = owner.id

/-- The row depends on taxpayers and links only. -/
theorem RowOf.of_same {database database' : Tenants} {transaction : Transaction}
    (isRow : RowOf collate installation arrival database' transaction)
    (sameTaxpayers : database'.taxpayerPins = database.taxpayerPins)
    (sameLinks : database'.apiClientTaxpayerPin = database.apiClientTaxpayerPin) :
    RowOf collate installation arrival database transaction := by
  obtain ⟨hasId, hasKey, client, owner, known, isTaxpayer, mayAct, ofTaxpayer⟩ := isRow
  refine ⟨hasId, hasKey, client, owner, known, ?_, ?_, ofTaxpayer⟩
  · rw [← sameTaxpayers]
    exact isTaxpayer
  · unfold MayActFor Tenants.linkedPins at mayAct ⊢
    rw [← sameTaxpayers, ← sameLinks]
    exact mayAct

/-- A hook that throws does so before the service is called. -/
theorem exec_process_of_error {world : World} {device : KraDeviceRow} {input : Entries}
    {thrown : Throwable} (hook : ProcessTransactionRequest.afterHook input = .error thrown) :
    exec (KraSalesController.process world device input) session =
      (.error (.php thrown), session) := by
  rw [KraSalesController.process, exec_bind_ok (exec_get session), hook, exec_raise_bind_error]

theorem exec_process_of_ok {world : World} {device : KraDeviceRow} {input : Entries}
    {errors : List ProcessTransactionRequest.FieldError}
    (hook : ProcessTransactionRequest.afterHook input = .ok errors) :
    exec (KraSalesController.process world device input) session =
      exec (Client.processTransaction world (session.tenants.kraDevice device)
        (validatedSchema
          (ProcessTransactionRequest.rules (KraSalesController.lookups session.tenants) input)
          input) >>= fun transaction => pure (KraSalesController.signedResponse transaction))
        session := by
  rw [KraSalesController.process, exec_bind_ok (exec_get session), hook, exec_raise_bind_ok]

/-- What the controller can do: throw and leave receipts and queue; or record one row, which
it answers with once the row's job is queued. -/
theorem process_cases (world : World) (device : KraDeviceRow) (input : Entries) :
    let ended := exec (KraSalesController.process world device input) session
    SameReceipts session ended.2 ∧ (∃ thrown, ended.1 = .error thrown) ∨
      ∃ transaction, RecordedFor world device input transaction ∧
        session.gateway.transactions.insert transaction = .ok ended.2.gateway.transactions ∧
        (ended.1 = .ok (KraSalesController.signedResponse transaction) ∧
            ended.2.gateway.jobs = session.gateway.jobs ++ [transaction.id] ∨
          (∃ thrown, ended.1 = .error thrown) ∧ world.queue ≠ none ∧
            ended.2.gateway.jobs = session.gateway.jobs) := by
  intro ended
  cases hook : ProcessTransactionRequest.afterHook input with
  | error thrown =>
      have threw : ended = (.error (.php thrown), session) := exec_process_of_error hook
      rw [threw]
      exact .inl ⟨Std.Refl.refl session, _, rfl⟩
  | ok errors =>
      let transactionData := validatedSchema
        (ProcessTransactionRequest.rules (KraSalesController.lookups session.tenants) input) input
      let kraDevice := session.tenants.kraDevice device
      have body : ended = exec
          (Client.processTransaction world kraDevice transactionData >>= fun transaction =>
            pure (KraSalesController.signedResponse transaction)) session :=
        exec_process_of_ok hook
      obtain ⟨sameOutcome, sameGateway⟩ :=
        @Client.exec_processTransaction_eq _ world kraDevice transactionData session
      have sale := @KraSalesService.processTransaction_cases _ world.platform world.config
        (Client.saleOf world kraDevice transactionData)
        (fun _ => world.transport session.calls.length) world.database world.queue
        session.gateway
      dsimp only at sale
      rw [← sameOutcome, ← sameGateway] at sale
      rw [body, exec_bind_pure]
      dsimp only
      rcases sale with ⟨⟨thrown, threw⟩, sameRows, sameJobs⟩ |
        ⟨_, _, transaction, -, read, inserted, queued⟩
      · exact .inl ⟨⟨sameRows, sameJobs⟩, thrown, by rw [threw]; rfl⟩
      · obtain ⟨_, _, _, _, _, -, -, number, receiptType, transactionType, rfl⟩ :=
          KraSalesService.readAnswer_eq_ok read
        have hasNumber := inputText_of_textAt [.required, .string, .max 50]
          (by simp [ProcessTransactionRequest.rules]) number
        have hasReceiptType := inputText_of_textAt
          [.required, .string, .oneOf ["NORMAL", "COPY", "TRAINING", "PROFORMA"]]
          (by simp [ProcessTransactionRequest.rules]) receiptType
        have hasTransactionType := inputText_of_textAt
          [.required, .string, .oneOf ["SALE", "CREDIT_NOTE", "DEBIT_NOTE"]]
          (by simp [ProcessTransactionRequest.rules]) transactionType
        refine .inr ⟨_, ⟨rfl, rfl, rfl, hasNumber, hasReceiptType, hasTransactionType⟩, inserted,
          ?_⟩
        rcases queued with ⟨-, returned, jobs⟩ | ⟨failed, ⟨thrown, threw⟩, jobs⟩
        · exact .inl ⟨by rw [returned]; rfl, jobs⟩
        · exact .inr ⟨⟨thrown, by rw [threw]; rfl⟩, failed, jobs⟩

/-- The action of a sale is that of its controller, on the device the sale names. -/
theorem sale_of_action (isSale : IsSale arrival) {action : Service collate ApiResponse}
    (isAction : installation.action arrival session = some action) :
    ∃ device ∈ session.tenants.kraDevices,
      action = KraSalesController.process arrival.world device arrival.request.input ∧
      ∀ transaction : Transaction,
        RecordedFor arrival.world device arrival.request.input transaction →
        RowOf collate installation arrival session.tenants transaction := by
  obtain ⟨client, known, isAdmitted⟩ := Option.bind_eq_some_iff.mp isAction
  rcases admitted_cases isAdmitted with ⟨isRoute, -⟩ | ⟨endpoint, device, isRoute, served, rfl⟩
  · exact absurd (isSale.symm.trans isRoute) (by simp)
  · obtain rfl := Route.endpoint.inj (isSale.symm.trans isRoute)
    obtain ⟨authorized, -⟩ := formReply_eq_served served
    obtain ⟨owner, owns, mayAct⟩ := owns_of_served served
    refine ⟨device, owns.isDevice, rfl, fun transaction recorded => ⟨recorded.hasId, ?_, client,
      owner, known, owns.isTaxpayer, mayAct, recorded.ofTaxpayer.trans owns.belongs⟩⟩
    have ofDevice := (ProcessTransactionRequest.of_authorize_eq_some authorized).2
    rw [receiptKey, ofDevice, recorded.hasNumber, recorded.hasReceiptType,
      recorded.hasTransactionType, ← recorded.ofDevice]
    rfl

/-- What any request can add to the table: nothing, or the row of a sale on a stored device. -/
theorem rows_cases (installation : Installation) (arrival : Arrival) (session : Session collate) :
    (installation.leaves arrival session).gateway.transactions = session.gateway.transactions ∨
      ∃ transaction, IsSale arrival ∧
        RowOf collate installation arrival session.tenants transaction ∧
        (∃ device ∈ session.tenants.kraDevices, device.id = transaction.kraDeviceId ∧
          device.taxpayerPinId = transaction.taxpayerPinId) ∧
        (installation.leaves arrival session).gateway.transactions.stored =
          session.gateway.transactions.stored ++ [transaction] := by
  by_cases isSale : IsSale arrival
  · cases isAction : installation.action arrival session with
    | none => exact .inl (congrArg (fun left => left.gateway.transactions)
        (leaves_of_noAction isAction))
    | some action =>
        obtain ⟨device, isDevice, rfl, isRow⟩ := sale_of_action isSale isAction
        rw [leaves_of_action isAction]
        rcases @process_cases _ session arrival.world device arrival.request.input with
          ⟨same, -⟩ | ⟨transaction, recorded, inserted, -⟩
        · exact .inl same.sameTransactions
        · exact .inr ⟨transaction, isSale, isRow transaction recorded,
            ⟨device, isDevice, recorded.ofDevice.symm, recorded.ofTaxpayer.symm⟩,
            (TransactionsTable.insert_eq_ok inserted).2⟩
  · exact .inl (sameReceipts_of_noSale isSale).sameTransactions

/-- What a sale can do: nothing to receipts and queue, and it is not answered; or one row,
which the answer shows and the queue gets, unless the queue fails. -/
theorem sale_cases (isSale : IsSale arrival) :
    SameReceipts session (installation.leaves arrival session) ∧
        (∃ response, installation.exit arrival session = .failed response) ∨
      ∃ transaction, RowOf collate installation arrival session.tenants transaction ∧
        session.gateway.transactions.insert transaction =
          .ok (installation.leaves arrival session).gateway.transactions ∧
        (installation.exit arrival session =
            .answered (KraSalesController.signedResponse transaction) ∧
          (installation.leaves arrival session).gateway.jobs =
            session.gateway.jobs ++ [transaction.id] ∨
        (∃ response, installation.exit arrival session = .failed response) ∧
          arrival.world.queue ≠ none ∧
          (installation.leaves arrival session).gateway.jobs = session.gateway.jobs) := by
  cases isAction : installation.action arrival session with
  | none =>
      refine .inl ⟨?_, failed_of_noAction (.inr ⟨_, isSale⟩) isAction⟩
      rw [leaves_of_noAction isAction]
      exact Std.Refl.refl session
  | some action =>
      obtain ⟨attributes, ended⟩ := exit_of_action isAction
      obtain ⟨device, -, rfl, isRow⟩ := sale_of_action isSale isAction
      rw [leaves_of_action isAction, ended]
      rcases process_cases arrival.world device arrival.request.input with
        ⟨same, thrown, threw⟩ | ⟨transaction, recorded, inserted, queued⟩
      · rw [threw]
        exact .inl ⟨same, _, rfl⟩
      · refine .inr ⟨transaction, isRow transaction recorded, inserted, ?_⟩
        rcases queued with ⟨returned, jobs⟩ | ⟨⟨thrown, threw⟩, failed, jobs⟩
        · rw [returned]
          exact .inl ⟨rfl, jobs⟩
        · rw [threw]
          exact .inr ⟨⟨_, rfl⟩, failed, jobs⟩

end Requests

/-! ## Runs -/

section Runs

variable {installation : Installation}

/-- An answered sale, if the entry is one. -/
def answeredSale? (entry : Arrival × Exit) : Option Arrival :=
  match entry.1.request.route, entry.2 with
  | .endpoint .processTransaction, .answered _ => some entry.1
  | _, _ => none

theorem answeredSale?_answered {arrival : Arrival} (isSale : IsSale arrival)
    (response : ApiResponse) : answeredSale? (arrival, .answered response) = some arrival := by
  have isRoute : arrival.request.route = .endpoint .processTransaction := isSale
  simp only [answeredSale?, isRoute]

theorem answeredSale?_failed (arrival : Arrival) (response : ApiResponse) :
    answeredSale? (arrival, .failed response) = none := by
  unfold answeredSale?
  split
  next isAnswered => cases isAnswered
  next => rfl

theorem answeredSale?_of_noSale {arrival : Arrival} (noSale : ¬ IsSale arrival) (exit : Exit) :
    answeredSale? (arrival, exit) = none := by
  unfold answeredSale?
  split
  next isSale _ => exact absurd isSale noSale
  next => rfl

theorem answeredSale?_eq_some {entry : Arrival × Exit} {arrival : Arrival}
    (isAnswered : answeredSale? entry = some arrival) :
    entry.1 = arrival ∧ IsSale arrival ∧ ∃ response, entry.2 = .answered response := by
  unfold answeredSale? at isAnswered
  split at isAnswered
  next response isSale answered =>
    obtain rfl := Option.some.inj isAnswered
    exact ⟨rfl, isSale, response, answered⟩
  next => cases isAnswered

/-- Rows, jobs and answers account for one another: the rows added are those of sales; an
answered sale shows its row, whose job is queued; a row that no answer shows is one whose
job could not be queued; and no two answers are for one id, or for one receipt. -/
structure Accounted (installation : Installation) (start : Session collate)
    (server : Server collate) : Prop where
  rows : ∃ added,
    server.session.gateway.transactions.stored = start.gateway.transactions.stored ++ added ∧
      ∀ transaction ∈ added, ∃ entry ∈ server.exits,
        IsSale entry.1 ∧ RowOf collate installation entry.1 start.tenants transaction ∧
        (entry.2 = .answered (KraSalesController.signedResponse transaction) ∧
            transaction.id ∈ server.session.gateway.jobs ∨
          (∃ response, entry.2 = .failed response) ∧ entry.1.world.queue ≠ none)
  answers : ∀ entry ∈ server.exits, IsSale entry.1 → ∀ response, entry.2 = .answered response →
    ∃ transaction ∈ server.session.gateway.transactions.stored,
      RowOf collate installation entry.1 start.tenants transaction ∧
      response = KraSalesController.signedResponse transaction ∧
      transaction.id ∈ server.session.gateway.jobs
  distinctIds :
    ((server.exits.filterMap answeredSale?).map fun arrival => arrival.world.uuid).Nodup
  distinctKeys :
    ((server.exits.filterMap answeredSale?).map fun arrival =>
      receiptKey collate arrival.request).Nodup
  sameTaxpayers : server.session.tenants.taxpayerPins = start.tenants.taxpayerPins
  sameLinks : server.session.tenants.apiClientTaxpayerPin = start.tenants.apiClientTaxpayerPin

/-- Permissions are what they were at the start. -/
theorem Accounted.rowOf {start : Session collate} {server : Server collate}
    (accounted : Accounted installation start server) {arrival : Arrival}
    {transaction : Transaction}
    (isRow : RowOf collate installation arrival server.session.tenants transaction) :
    RowOf collate installation arrival start.tenants transaction :=
  isRow.of_same accounted.sameTaxpayers accounted.sameLinks

/-- A request that adds no row and answers no sale. -/
theorem Accounted.step_same {start : Session collate} {server : Server collate}
    (accounted : Accounted installation start server) {arrival : Arrival} {exit : Exit}
    (same : SameReceipts server.session (installation.leaves arrival server.session))
    (unanswered : IsSale arrival → ∃ response, exit = .failed response) :
    Accounted installation start
      ⟨installation.leaves arrival server.session, server.exits ++ [(arrival, exit)]⟩ := by
  obtain ⟨sameTaxpayers, sameLinks⟩ := samePermissions_leaves installation arrival server.session
  have sameAnswers : (server.exits ++ [(arrival, exit)]).filterMap answeredSale? =
      server.exits.filterMap answeredSale? := by
    have noAnswer : answeredSale? (arrival, exit) = none := by
      by_cases isSale : IsSale arrival
      · obtain ⟨response, rfl⟩ := unanswered isSale
        exact answeredSale?_failed arrival response
      · exact answeredSale?_of_noSale isSale exit
    simp [List.filterMap_append, noAnswer]
  refine ⟨?_, ?_, ?_, ?_, sameTaxpayers.trans accounted.sameTaxpayers,
    sameLinks.trans accounted.sameLinks⟩
  · obtain ⟨added, stored, each⟩ := accounted.rows
    refine ⟨added, by rw [same.sameTransactions]; exact stored, fun transaction isAdded => ?_⟩
    obtain ⟨entry, isEntry, rest⟩ := each transaction isAdded
    rw [same.sameJobs]
    exact ⟨entry, List.mem_append_left _ isEntry, rest⟩
  · intro entry isEntry isSale response answered
    rw [same.sameTransactions, same.sameJobs]
    rcases List.mem_append.mp isEntry with isOld | isNew
    · exact accounted.answers entry isOld isSale response answered
    · obtain rfl := List.mem_singleton.mp isNew
      obtain ⟨other, failed⟩ := unanswered isSale
      rw [show exit = .answered response from answered] at failed
      cases failed
  · rw [sameAnswers]
    exact accounted.distinctIds
  · rw [sameAnswers]
    exact accounted.distinctKeys

/-- The sales answered before had other ids and other receipts than a row that is inserted
now. -/
theorem Accounted.fresh_of_insert {start : Session collate} {server : Server collate}
    (accounted : Accounted installation start server) {arrival : Arrival}
    {transaction : Transaction}
    (isRow : RowOf collate installation arrival server.session.tenants transaction)
    (admitted : server.session.gateway.transactions.Admits transaction) :
    ∀ earlier ∈ server.exits.filterMap answeredSale?,
      earlier.world.uuid ≠ arrival.world.uuid ∧
        receiptKey collate earlier.request ≠ receiptKey collate arrival.request := by
  intro earlier isEarlier
  obtain ⟨entry, isEntry, isAnswered⟩ := List.mem_filterMap.mp isEarlier
  obtain ⟨rfl, isSale, response, answered⟩ := answeredSale?_eq_some isAnswered
  obtain ⟨other, isStored, isOther, -, -⟩ :=
    accounted.answers entry isEntry isSale response answered
  constructor
  · intro sameUuid
    refine admitted.2.1 ?_
    rw [isRow.hasId, ← sameUuid, ← isOther.hasId]
    simpa [TransactionsTable.stored] using List.mem_map_of_mem (f := Transaction.id) isStored
  · intro sameKey
    rw [isRow.hasKey, isOther.hasKey] at sameKey
    refine admitted.2.2 ?_
    rw [← Option.some.inj sameKey]
    simpa [TransactionsTable.stored] using
      List.mem_map_of_mem (f := Transaction.key collate) isStored

/-- A tag that no earlier answer has keeps the tags of the answers apart. -/
theorem nodup_answeredSale_append {β : Type} {tag : Arrival → β} {exits : List (Arrival × Exit)}
    {arrival : Arrival} (distinct : ((exits.filterMap answeredSale?).map tag).Nodup)
    (isNew : ∀ earlier ∈ exits.filterMap answeredSale?, tag earlier ≠ tag arrival) (exit : Exit) :
    (((exits ++ [(arrival, exit)]).filterMap answeredSale?).map tag).Nodup := by
  rw [List.filterMap_append, List.map_append]
  cases isAnswered : answeredSale? (arrival, exit) with
  | none => simpa [isAnswered] using distinct
  | some answered =>
      obtain ⟨rfl, -⟩ := answeredSale?_eq_some isAnswered
      rw [List.filterMap_cons, isAnswered]
      refine List.Nodup.append distinct (by simp) ?_
      intro value isOld isLast
      obtain ⟨earlier, isEarlier, rfl⟩ := List.mem_map.mp isOld
      exact isNew earlier isEarlier (by simpa using isLast)

/-- A sale that adds a row. -/
theorem Accounted.step_row {start : Session collate} {server : Server collate}
    (accounted : Accounted installation start server) {arrival : Arrival} {exit : Exit}
    {transaction : Transaction} (isSale : IsSale arrival)
    (isRow : RowOf collate installation arrival server.session.tenants transaction)
    (inserted : server.session.gateway.transactions.insert transaction =
      .ok (installation.leaves arrival server.session).gateway.transactions)
    (ends : exit = .answered (KraSalesController.signedResponse transaction) ∧
        (installation.leaves arrival server.session).gateway.jobs =
          server.session.gateway.jobs ++ [transaction.id] ∨
      (∃ response, exit = .failed response) ∧ arrival.world.queue ≠ none ∧
        (installation.leaves arrival server.session).gateway.jobs =
          server.session.gateway.jobs) :
    Accounted installation start
      ⟨installation.leaves arrival server.session, server.exits ++ [(arrival, exit)]⟩ := by
  obtain ⟨sameTaxpayers, sameLinks⟩ := samePermissions_leaves installation arrival server.session
  obtain ⟨admitted, stored'⟩ := TransactionsTable.insert_eq_ok inserted
  have fresh := accounted.fresh_of_insert isRow admitted
  have isNew : transaction ∈
      (installation.leaves arrival server.session).gateway.transactions.stored := by
    simp [stored']
  have jobsStay : ∀ id ∈ server.session.gateway.jobs,
      id ∈ (installation.leaves arrival server.session).gateway.jobs := by
    intro id queued
    rcases ends with ⟨-, jobs⟩ | ⟨-, -, jobs⟩ <;> simp [jobs, queued]
  refine ⟨?_, ?_, ?_, ?_, sameTaxpayers.trans accounted.sameTaxpayers,
    sameLinks.trans accounted.sameLinks⟩
  · obtain ⟨added, stored, each⟩ := accounted.rows
    refine ⟨added ++ [transaction], by rw [stored', stored, List.append_assoc], ?_⟩
    intro other isAdded
    rcases List.mem_append.mp isAdded with wasAdded | isOther
    · obtain ⟨entry, isEntry, isSale', isRow', ended⟩ := each other wasAdded
      refine ⟨entry, List.mem_append_left _ isEntry, isSale', isRow', ?_⟩
      exact ended.imp_left fun shown => ⟨shown.1, jobsStay _ shown.2⟩
    · obtain rfl := List.mem_singleton.mp isOther
      refine ⟨(arrival, exit), by simp, isSale, accounted.rowOf isRow, ?_⟩
      rcases ends with ⟨answered, jobs⟩ | ⟨failed, noQueue, -⟩
      · exact .inl ⟨answered, by simp [jobs]⟩
      · exact .inr ⟨failed, noQueue⟩
  · intro entry isEntry isSale' response answered
    rcases List.mem_append.mp isEntry with isOld | isLast
    · obtain ⟨other, isStored, isRow', shown, queued⟩ :=
        accounted.answers entry isOld isSale' response answered
      exact ⟨other, by simp [stored', isStored], isRow', shown, jobsStay _ queued⟩
    · obtain rfl := List.mem_singleton.mp isLast
      refine ⟨transaction, isNew, accounted.rowOf isRow, ?_⟩
      have isAnswer : exit = .answered response := answered
      rcases ends with ⟨shown, jobs⟩ | ⟨⟨other, failed⟩, -, -⟩
      · exact ⟨Exit.answered.inj (isAnswer.symm.trans shown), by simp [jobs]⟩
      · rw [isAnswer] at failed
        cases failed
  · exact nodup_answeredSale_append accounted.distinctIds
      (fun earlier isEarlier => (fresh earlier isEarlier).1) exit
  · exact nodup_answeredSale_append accounted.distinctKeys
      (fun earlier isEarlier => (fresh earlier isEarlier).2) exit

theorem accounted_step {start : Session collate} {server server' : Server collate}
    {arrival : Arrival} (accounted : Accounted installation start server)
    (stepped : step installation server arrival = some server') :
    Accounted installation start server' := by
  obtain rfl := Option.some.inj stepped
  by_cases isSale : IsSale arrival
  · rcases sale_cases isSale with ⟨same, failed⟩ | ⟨transaction, isRow, inserted, ends⟩
    · exact accounted.step_same same fun _ => failed
    · exact accounted.step_row isSale isRow inserted ends
  · exact accounted.step_same (sameReceipts_of_noSale isSale) fun isSale' => absurd isSale' isSale

/-- In every run the rows, the jobs and the answers account for one another. -/
theorem accounted_of_run {session : Session collate} {server : Server collate}
    {arrivals : List Arrival}
    (ran : run (step installation) ⟨session, []⟩ arrivals = some server) :
    Accounted installation session server := by
  have atStart : Accounted installation session ⟨session, []⟩ :=
    ⟨⟨[], by simp, by simp⟩, by simp, by simp, by simp, rfl, rfl⟩
  exact run_invariant (fun _ _ _ held stepped => accounted_step held stepped) atStart ran

end Runs

/-! ### The bread sale, twice -/

/-- The shop's device signs every sale. -/
def signingWorld : World :=
  { Client.offlineWorld with
    platform := Sales.shopPlatform "P" "KRACU1"
    transport := fun _ => Sales.signedAnswer "P" "KRACU1" }

def breadArrival : Arrival :=
  shopArrival signingWorld (.endpoint .processTransaction)
    (AcceptedRequest.cashSaleInput (.int 0) "Bread")

/-- The second sale has the receipt number of the first. -/
def breadTwice : Option (Server id) :=
  run (step shopInstallation) ⟨Devices.shopSession, []⟩ [breadArrival, breadArrival]

theorem breadTwice_returns : breadTwice.isSome = true := by
  rfl

/-- The theorem at that run. -/
theorem accounted_of_run_breadTwice :
    Accounted shopInstallation Devices.shopSession (breadTwice.get breadTwice_returns) :=
  accounted_of_run (Option.some_get breadTwice_returns).symm

end TaxGateway.Access
