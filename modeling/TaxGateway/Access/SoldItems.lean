import TaxGateway.Access.JournaledSales
import TaxGateway.Jobs.JournalContent

/-!
Contract: a sale from its request to the journal that KRA is sent.

Owns:
- what a line of the journal charges, and what the journal repeats of the signature;
- that the row of a sale is what the answer to its signing command says;
- that a completed attempt has sent what was sold, and as it was signed.

Does not own: sales whose jobs do not complete.
-/

namespace TaxGateway.Access

open TaxGateway.Php
open TaxGateway.Database
open TaxGateway.Effects
open TaxGateway.Transitions
open TaxGateway.Services
open TaxGateway.Services.KraSalesService (kraTimestampText readAnswer readAnswer_eq_ok sign
  signedData signedTransaction)
open TaxGateway.Http
open TaxGateway.Jobs
open TaxGateway.Jobs.ProcessKraJournalingJob
open TaxGateway.Sales (Setting System receiptTexts)

variable {collate : String → String}

/-! ## Lines and journal of a receipt -/

/-- The line charges what the item says, under the number of its receipt. -/
structure Charges (number : String) (item : Key × Value) (line : List (String × Value)) :
    Prop where
  receipt : line.lookup "RNum" = some (.str number)
  position : ∃ itemIndex,
    item.1.toInt "sendReceiptItem(): Argument #5 ($itemIndex)" = .ok itemIndex ∧
      line.lookup "ItemNo" = some (.num ((itemIndex + 1 : Int) : ℚ))
  quantity : line.lookup "ItemQuantity" = item.2.index "quantity"
  price : ∃ unitPrice number, item.2.index "unitPrice" = some unitPrice ∧
    unitPrice.toNumber = .ok number ∧
    line.lookup "ItemPrice" = some (.str (numberFormat 2 number))
  total : ∃ number, (item.2.coalesce "totalAmount" (.num 0)).toNumber = .ok number ∧
    line.lookup "ItemTotal" = some (.str (numberFormat 2 number))
  tax : ∀ number, (item.2.coalesce "taxAmount" .null).toNumber = .ok number → number ≠ 0 →
    line.lookup "ItemTaxAmount" = some (.str (numberFormat 2 number))

/-- The journal repeats the receipt of the request, and its signature in the answer. -/
structure Confirms (request : AcceptedRequest) (dataNode : Xml) (kraTimestamp : DateTime)
    (journal : List (String × Value)) : Prop where
  receipt : journal.lookup "RNum" = some (.str (request.text "internalReceiptNumber"))
  receiptType : ∃ rtype, getKraReceiptType (request.text "receiptType") = .ok rtype ∧
    journal.lookup "Rtype" = some (.str rtype)
  transactionType : ∃ ttype,
    getKraTransactionType (request.text "transactionType") = .ok ttype ∧
      journal.lookup "TType" = some (.str ttype)
  date : journal.lookup "Date" = some (.str kraTimestamp.formatDate)
  time : journal.lookup "Time" = some (.str kraTimestamp.formatTime)
  device : journal.lookup "SNumber" = some (.str (dataNode.childText "Snumber"))
  signature : journal.lookup "Signature" = some (.str (dataNode.childText "Signature"))
  internalData : journal.lookup "InternalData" =
    some (.str (dataNode.childText "InternalData"))

section Lines

variable {pin : String} {transaction : Transaction} {request : AcceptedRequest}

/-- The line of an accepted item charges what the item says. -/
theorem charges_of_sendReceiptItem {item : Key × Value} (member : item ∈ request.items)
    {command : KraCommand} (built : sendReceiptItem pin transaction item = .ok command) :
    Charges transaction.internalReceiptNumber item command.xml.data := by
  obtain ⟨-, itemIndex, data, converted, payload, rfl⟩ := sendReceiptItem_eq_ok built
  have zero : ∃ number, (Value.num 0).toNumber = .ok number := ⟨0, rfl⟩
  have isPrice : (⟨"unitPrice", [.required, .numeric]⟩ : Validation.Field) ∈
      ProcessTransactionRequest.itemFields := by
    simp [ProcessTransactionRequest.itemFields]
  have isTotal : (⟨"totalAmount", [.nullable, .numeric]⟩ : Validation.Field) ∈
      ProcessTransactionRequest.itemFields := by
    simp [ProcessTransactionRequest.itemFields]
  obtain ⟨quantity, found, read, -⟩ := item_quantity member
  obtain ⟨unitPrice, price, priced, notNull, -, isNumber⟩ := required_number member isPrice
  obtain ⟨total, totalled⟩ := item_number member isTotal (by simp) zero
  constructor
  · obtain ⟨_, _, _, _, -, -, -, -, rfl⟩ := receiptItemPayload_eq_ok payload
    exact lookup_of_fields (lookup_of_fields rfl)
  · exact ⟨itemIndex, converted, lookup_itemNo payload⟩
  · rw [lookup_itemQuantity payload, read, found]
  · refine ⟨unitPrice, price, priced, isNumber, lookup_itemPrice payload ?_⟩
    rwa [Value.coalesce_of_index_some priced notNull]
  · exact ⟨total, totalled, lookup_itemTotal payload totalled⟩
  · exact fun tax taxed nonzero => lookup_itemTaxAmount payload taxed nonzero

/-- The journal of a row that was read from an answer repeats what it says. -/
theorem confirms_of_sendReceiptJournal {config : KraConfig} {sale : Sale} {dataNode : Xml}
    {kraTimestamp : DateTime} {platform : Platform} {xmlPayload : KraXml}
    {response : HttpResponse} {command : KraCommand}
    (built : sendReceiptJournal pin (signedTransaction config sale dataNode kraTimestamp
      (receiptTexts platform request xmlPayload response)) = .ok command) :
    Confirms request dataNode kraTimestamp command.xml.data := by
  obtain ⟨data, payload, rfl⟩ := sendReceiptJournal_eq_ok built
  obtain ⟨rtype, isReceipt, payload⟩ := bind_eq_ok.mp payload
  obtain ⟨ttype, isTransaction, payload⟩ := bind_eq_ok.mp payload
  obtain ⟨taxRates, -, payload⟩ := bind_eq_ok.mp payload
  obtain ⟨taxableAmounts, -, payload⟩ := bind_eq_ok.mp payload
  obtain ⟨calculatedTaxes, -, returned⟩ := bind_eq_ok.mp payload
  obtain rfl := Except.ok.inj returned
  have header : ∀ {key : String} {value : Value} {fields : List (String × Value)},
      fields.lookup key = some value →
      (fields ++ taxRates ++ taxableAmounts ++ calculatedTaxes).lookup key = some value :=
    fun found => lookup_of_fields (lookup_of_fields (lookup_of_fields found))
  constructor
  · exact header rfl
  · exact ⟨rtype, isReceipt, header rfl⟩
  · exact ⟨ttype, isTransaction, header rfl⟩
  · exact header rfl
  · exact header rfl
  · exact header rfl
  · exact header rfl
  · exact header rfl

end Lines

/-! ## Rows of sales -/

/-- What the service is called with for a sale. -/
def Arrival.sale (arrival : Arrival) (request : AcceptedRequest) (device : KraDevice) : Sale :=
  ⟨device, request.validated, arrival.world.uuid, arrival.world.now⟩

/-- The transaction was read from the answer the sale got when it was sent for signing. -/
structure SignedAs (kraApi : KraApi) (arrival : Arrival) (request : AcceptedRequest)
    (device : KraDevice) (dataNode : Xml) (kraTimestamp : DateTime)
    (transaction : Transaction) : Prop where
  isSale : IsSale arrival
  sameInput : request.input = arrival.request.input
  ofDevice : boundText (arrival.request.value "gatewayDeviceId") = some device.id
  read : ∃ index xmlPayload response,
    sign arrival.world.platform arrival.world.config kraApi (arrival.sale request device)
        (fun _ => arrival.world.transport index) = .ok (xmlPayload, response) ∧
      signedData arrival.world.platform response = some dataNode ∧
      DateTime.createFromFormat (kraTimestampText dataNode) = some kraTimestamp ∧
      transaction = signedTransaction arrival.world.config (arrival.sale request device) dataNode
        kraTimestamp (receiptTexts arrival.world.platform request xmlPayload response)

/-- The receipt was signed for a sale that has arrived. -/
def SignedReceipt (kraApi : KraApi) (exits : List (Arrival × Exit)) (transaction : Transaction) :
    Prop :=
  ∃ entry ∈ exits, ∃ request device dataNode kraTimestamp,
    SignedAs kraApi entry.1 request device dataNode kraTimestamp transaction

/-- Who signs with the client does not ask for its base URL. -/
theorem sign_congr {kraApi kraApi' : KraApi}
    (sameClient : ∀ url, { kraApi with baseUrl := url } = { kraApi' with baseUrl := url })
    (platform : Platform) (config : KraConfig) (sale : Sale) (network : Outgoing → Transport) :
    sign platform config kraApi sale network = sign platform config kraApi' sale network := by
  unfold sign
  split
  next => rfl
  next => rfl
  next => rfl
  next url _ _ _ _ => rw [sameClient url]

section Rows

variable {installation : Installation} {arrival : Arrival} {session : Session collate}
  {kraApi : KraApi}

/-- What a request adds to the table is the row of a sale, as it was signed. -/
theorem signed_row (reports : ReportsSales installation) (arrival : Arrival)
    (session : Session collate) :
    (installation.leaves arrival session).gateway.transactions = session.gateway.transactions ∨
      ∃ request device dataNode kraTimestamp transaction,
        SignedAs session.gateway.kraApi arrival request device dataNode kraTimestamp
            transaction ∧
          (installation.leaves arrival session).gateway.transactions.stored =
            session.gateway.transactions.stored ++ [transaction] := by
  by_cases isSale : IsSale arrival
  · cases isAction : installation.action arrival session with
    | none => exact .inl (congrArg (fun left => left.gateway.transactions)
        (leaves_of_noAction isAction))
    | some action =>
        rw [leaves_of_action isAction]
        rcases accepted_of_action reports isSale isAction with
          ⟨thrown, threw⟩ | ⟨request, device, sameInput, ofDevice, called⟩
        · rw [threw]
          exact .inl rfl
        · rw [called, exec_bind_pure]
          obtain ⟨-, sameGateway⟩ := @Client.exec_processTransaction_eq _ arrival.world
            (session.tenants.kraDevice device) (Validation.validatedSchema
              (ProcessTransactionRequest.rules request.lookups request.input) request.input)
            session
          dsimp only
          rw [sameGateway]
          rcases @KraSalesService.processTransaction_cases _ arrival.world.platform
            arrival.world.config (arrival.sale request (session.tenants.kraDevice device))
            (fun _ => arrival.world.transport session.calls.length) arrival.world.database
            arrival.world.queue session.gateway with
            ⟨-, same, -⟩ | ⟨xmlPayload, response, transaction, signed, read, inserted, -⟩
          · exact .inl same
          · obtain ⟨dataNode, kraTimestamp, _, _, _, hasData, parses, -, -, -, -⟩ :=
              readAnswer_eq_ok read
            have isRead := Except.ok.inj (read.symm.trans
              (@Sales.readAnswer_of_accepted request
                (arrival.sale request (session.tenants.kraDevice device)) rfl _ _ xmlPayload
                response dataNode kraTimestamp hasData parses))
            exact .inr ⟨request, _, dataNode, kraTimestamp, transaction,
              ⟨isSale, sameInput, ofDevice, _, xmlPayload, response, signed, hasData, parses,
                isRead⟩, (TransactionsTable.insert_eq_ok inserted).2⟩
  · exact .inl (sameReceipts_of_noSale isSale).sameTransactions

end Rows

/-! ## Runs -/

section Runs

variable {installation : Installation} {setting : Setting} {tenants : Tenants} {kraApi : KraApi}
  {deployment next final : Deployment collate} {events : List Event}

/-- The client is the given one, but for its base URL, and all receipts were signed with it. -/
structure AllSigned (kraApi : KraApi) (deployment : Deployment collate) : Prop where
  sameClient : ∀ url, { deployment.session.gateway.kraApi with baseUrl := url } =
    { kraApi with baseUrl := url }
  signed : ∀ transaction ∈ deployment.system.receipts,
    SignedReceipt kraApi deployment.server.exits transaction

theorem SignedReceipt.mono {exits exits' : List (Arrival × Exit)} {transaction : Transaction}
    (signed : SignedReceipt kraApi exits transaction) (logged : exits ⊆ exits') :
    SignedReceipt kraApi exits' transaction := by
  obtain ⟨entry, isEntry, signedAs⟩ := signed
  exact ⟨entry, logged isEntry, signedAs⟩

/-- A row that was just signed is its own receipt. -/
theorem SignedAs.signedReceipt {arrival : Arrival} {request : AcceptedRequest}
    {device : KraDevice} {dataNode : Xml} {kraTimestamp : DateTime} {transaction : Transaction}
    (sameClient : ∀ url, { deployment.session.gateway.kraApi with baseUrl := url } =
      { kraApi with baseUrl := url })
    (signedAs : SignedAs deployment.session.gateway.kraApi arrival request device dataNode
      kraTimestamp transaction) :
    SignedReceipt kraApi (deployment.arrived installation arrival).server.exits
      (Sales.receipt transaction) := by
  obtain ⟨isSale, sameInput, ofDevice, index, xmlPayload, response, signed, hasData, parses,
    rfl⟩ := signedAs
  rw [sign_congr sameClient] at signed
  exact ⟨_, List.mem_append_right _ List.mem_cons_self, request, device, dataNode, kraTimestamp,
    isSale, sameInput, ofDevice, index, xmlPayload, response, signed, hasData, parses, rfl⟩

theorem allSigned_step (reports : ReportsSales installation) {event : Event}
    (allSigned : AllSigned kraApi deployment)
    (stepped : deployment.step installation setting event = some next) :
    AllSigned kraApi next := by
  cases event with
  | arrives arrival =>
      obtain rfl := Deployment.step_arrives stepped
      have sameClient := @sameClient_leaves _ installation arrival deployment.session
      refine ⟨fun url => (sameClient url).trans (allSigned.sameClient url), ?_⟩
      have isKept : ∀ old ∈ deployment.system.receipts,
          SignedReceipt kraApi (deployment.arrived installation arrival).server.exits old :=
        fun old isOld => (allSigned.signed old isOld).mono (List.subset_append_left _ _)
      intro receipt isReceipt
      obtain ⟨transaction, isStored, rfl⟩ := List.mem_map.mp isReceipt
      have isStored : transaction ∈
          (installation.leaves arrival deployment.session).gateway.transactions.stored := isStored
      rcases signed_row reports arrival deployment.session with
        same | ⟨request, device, dataNode, kraTimestamp, row, signedAs, stored⟩
      · rw [same] at isStored
        exact isKept _ (List.mem_map_of_mem isStored)
      · rw [stored] at isStored
        rcases List.mem_append.mp isStored with isOld | isNew
        · exact isKept _ (List.mem_map_of_mem isOld)
        · rw [List.mem_singleton.mp isNew]
          exact signedAs.signedReceipt allSigned.sameClient
  | works label =>
      obtain ⟨isWork, after, worked, rfl⟩ := Deployment.step_works stepped
      refine ⟨allSigned.sameClient, fun receipt isReceipt => allSigned.signed receipt ?_⟩
      rw [← Sales.receipts_of_work isWork worked]
      exact isReceipt

theorem allSigned_of_run (reports : ReportsSales installation)
    (ran : run (Deployment.step installation setting)
      (fresh tenants kraApi : Deployment collate) events = some final) :
    AllSigned kraApi final := by
  have atStart : AllSigned kraApi (fresh tenants kraApi : Deployment collate) :=
    ⟨fun _ => rfl, fun receipt isReceipt => absurd isReceipt List.not_mem_nil⟩
  exact run_invariant (fun _ _ _ held stepped => allSigned_step reports held stepped) atStart ran

/-- What was sold is journaled, and as it was signed. If an attempt has completed the job of
a receipt, KRA was sent one line for each item of the accepted request, in the order of the
items, under the number of the receipt and with the item's quantity, price, total and tax;
and then the journal, with the device number, the signature and the time of the answer that
the request got when it was sent for signing. -/
theorem journaled_as_signed (reports : ReportsSales installation)
    (under : ∀ arrival, .arrives arrival ∈ events → RunsUnder setting arrival)
    (ran : run (Deployment.step installation setting)
      (fresh tenants setting.kraApi : Deployment collate) events = some final)
    {id : String} {attempt : Journaling.Attempt} (isAttempt : attempt ∈ final.attempts id)
    (completed : attempt.phase = .completed) :
    ∃ entry ∈ final.server.exits, ∃ request device dataNode kraTimestamp transaction,
      SignedAs setting.kraApi entry.1 request device dataNode kraTimestamp transaction ∧
      transaction.id = id ∧
      (∃ stored ∈ final.session.gateway.transactions.stored,
        Sales.receipt stored = transaction) ∧
      (∀ each ∈ attempt.sent, each.returned = true) ∧
      ∃ lines journal, attempt.sent.map Journaling.Sent.command = lines ++ [journal] ∧
        List.Forall₂ (fun item line => line.xml.command = "SEND_RECEIPTITEM" ∧
          Charges (request.text "internalReceiptNumber") item line.xml.data)
          request.items lines ∧
        journal.xml.command = "SEND_RECEIPT" ∧
        Confirms request dataNode kraTimestamp journal.xml.data := by
  obtain ⟨stored, isStored, rfl, consistent⟩ :=
    consistent_of_attempt reports under ran isAttempt
  unfold Journaling.Attempt.Consistent at consistent
  rw [completed] at consistent
  obtain ⟨pin, items, lines, journal, hasPin, entries, isLine, isJournal, asJournal, sent,
    returned⟩ := Journaling.completeJournal_of_returned consistent
  have allSigned := allSigned_of_run reports ran
  obtain ⟨entry, isEntry, request, device, dataNode, kraTimestamp, signedAs⟩ :=
    allSigned.signed _ (List.mem_map_of_mem isStored)
  obtain ⟨index, xmlPayload, response, -, -, -, asRead⟩ := signedAs.read
  refine ⟨entry, isEntry, request, device, dataNode, kraTimestamp, _, signedAs, rfl,
    ⟨stored, isStored, rfl⟩, returned, lines, journal, sent, ?_, asJournal, ?_⟩
  · -- The items of the row are those of the request.
    have sameItems : items = request.items := by
      have payload : stored.requestPayload = request.validated :=
        congrArg Transaction.requestPayload asRead
      have ofRow : itemEntries stored.requestPayload = .ok items := entries
      rw [payload, itemEntries_of_validated] at ofRow
      exact (Except.ok.inj ofRow).symm
    subst sameItems
    have sameNumber : stored.internalReceiptNumber = request.text "internalReceiptNumber" :=
      congrArg Transaction.internalReceiptNumber asRead
    refine List.forall₂_iff_get.mpr ⟨isLine.length_eq, fun k below below' => ?_⟩
    obtain ⟨built, asLine⟩ := isLine.get below below'
    rw [← sameNumber]
    exact ⟨asLine, charges_of_sendReceiptItem (List.get_mem _ _) built⟩
  · have built : sendReceiptJournal pin (Sales.receipt stored) = .ok journal := isJournal
    rw [asRead] at built
    exact confirms_of_sendReceiptJournal built

end Runs

/-! ### The bread and its journal -/

theorem journaledDay_completed :
    ((journaledDayRun.get journaledDayRun_returns).attempts "1").any Sales.isCompleted = true := by
  decide +kernel

/-- The bread is journaled line by line. -/
theorem journaled_as_signed_journaledDay :
    ∃ attempt ∈ (journaledDayRun.get journaledDayRun_returns).attempts "1",
      ∃ (request : AcceptedRequest) (lines : List KraCommand) (journal : KraCommand),
        attempt.sent.map Journaling.Sent.command = lines ++ [journal] ∧
          List.Forall₂ (fun item line => line.xml.command = "SEND_RECEIPTITEM" ∧
            Charges (request.text "internalReceiptNumber") item line.xml.data)
            request.items lines := by
  obtain ⟨attempt, isAttempt, completes⟩ := List.any_eq_true.mp journaledDay_completed
  have completed : attempt.phase = .completed := by
    unfold Sales.isCompleted at completes
    split at completes
    next isCompleted => exact isCompleted
    next => cases completes
  obtain ⟨_, -, request, _, _, _, _, -, -, -, -, lines, journal, sent, charged, -⟩ :=
    journaled_as_signed (reportsSales_of_saleFailures rfl) journaledDay_runsUnder
      (Option.some_get journaledDayRun_returns).symm isAttempt completed
  exact ⟨attempt, isAttempt, request, lines, journal, sent, charged⟩

end TaxGateway.Access
