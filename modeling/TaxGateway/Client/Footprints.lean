import TaxGateway.Client.Calls
import TaxGateway.Devices.Initialisation

/-!
Contract: what a call of a service leaves untouched, whatever it meets.

Owns:
- what a call made for one taxpayer may do to a session: send commands under the
  taxpayer's PIN, record its receipts and queue their jobs, register its devices and
  write to their rows;
- that each of the twelve calls does no more, however it ends: it touches no row of
  another taxpayer, sends nothing in another's name, and leaves the client as it is but
  for its base URL.

Does not own: for which taxpayer a request makes its call.
-/

namespace TaxGateway.Client

open TaxGateway.Php
open TaxGateway.Database
open TaxGateway.Effects
open TaxGateway.Services
open TaxGateway.Services.Session
open TaxGateway.Services.KraDeviceService
open TaxGateway.Services.KraSalesService
open TaxGateway.Devices

/-! ## Commands -/

/-- The PIN a command is sent under. -/
def Command.pin : Command → Option String
  | .xml payload => some payload.pin
  | .json payload =>
      match payload.lookup "tin" with
      | some (.str text) => some text
      | _ => none

/-! ## Tables -/

/-- What no call may change of a device's row. -/
def identity (device : KraDeviceRow) : String × String × String :=
  (device.id, device.taxpayerPinId, device.kraScuId)

/-- Taxpayers and permissions stay; so do the devices and their owners, but for devices
registered for `owner`; and a device of anybody else keeps its row. -/
structure KeepsOthers (owner : TaxpayerPin) (tenants tenants' : Tenants) : Prop where
  sameTaxpayers : tenants'.taxpayerPins = tenants.taxpayerPins
  sameLinks : tenants'.apiClientTaxpayerPin = tenants.apiClientTaxpayerPin
  registers : ∃ added, tenants'.kraDevices.map identity =
      tenants.kraDevices.map identity ++ added ∧ ∀ device ∈ added, device.2.1 = owner.id
  keepsRows : ∀ device ∈ tenants.kraDevices, device.taxpayerPinId ≠ owner.id →
    device ∈ tenants'.kraDevices

instance (owner : TaxpayerPin) : IsPreorder Tenants (KeepsOthers owner) where
  refl tenants := ⟨rfl, rfl, ⟨[], by simp, by simp⟩, fun _ isStored _ => isStored⟩
  trans first second third := by
    rintro ⟨taxpayers, links, ⟨added, rows, owned⟩, kept⟩
      ⟨taxpayers', links', ⟨added', rows', owned'⟩, kept'⟩
    refine ⟨taxpayers'.trans taxpayers, links'.trans links, ⟨added ++ added', ?_, ?_⟩, ?_⟩
    · rw [rows', rows, List.append_assoc]
    · intro device member
      rcases List.mem_append.mp member with isFirst | isSecond
      · exact owned device isFirst
      · exact owned' device isSecond
    · intro device isStored notOwned
      exact kept' device (kept device isStored notOwned) notOwned

section Tables

variable {owner : TaxpayerPin} {tenants tenants' : Tenants} {device : KraDeviceRow}

theorem keepsOthers_insert (inserted : tenants.insertDevice device = .ok tenants')
    (isOwned : device.taxpayerPinId = owner.id) : KeepsOthers owner tenants tenants' := by
  unfold Tenants.insertDevice at inserted
  split at inserted
  next =>
    split at inserted
    next =>
      obtain rfl := Except.ok.inj inserted
      refine ⟨rfl, rfl, ⟨[identity device], by simp, ?_⟩, ?_⟩
      · intro added member
        rw [List.mem_singleton.mp member]
        exact isOwned
      · exact fun other isStored _ => List.mem_append_left _ isStored
    next => cases inserted
  next => cases inserted

theorem identities_update (id : String) (change : KraDeviceRow → KraDeviceRow)
    (keepsKeys : ∀ row, (change row).id = row.id ∧ (change row).kraScuId = row.kraScuId ∧
      (change row).taxpayerPinId = row.taxpayerPinId) :
    (tenants.updateDevice id change keepsKeys).kraDevices.map identity =
      tenants.kraDevices.map identity := by
  show (tenants.kraDevices.map _).map identity = _
  rw [List.map_map]
  apply List.map_congr_left
  intro row _
  obtain ⟨sameId, sameScuId, sameOwner⟩ := keepsKeys row
  by_cases isRow : row.id = id
  · simp only [Function.comp_apply, if_pos isRow, identity, sameId, sameScuId, sameOwner]
  · simp only [Function.comp_apply, if_neg isRow]

/-- A write to the device with an id changes no row of anybody else, if that device is
the taxpayer's. -/
theorem keepsOthers_update {id : String}
    (isOwned : ∀ row ∈ tenants.kraDevices, row.id = id → row.taxpayerPinId = owner.id)
    (change : KraDeviceRow → KraDeviceRow)
    (keepsKeys : ∀ row, (change row).id = row.id ∧ (change row).kraScuId = row.kraScuId ∧
      (change row).taxpayerPinId = row.taxpayerPinId) :
    KeepsOthers owner tenants (tenants.updateDevice id change keepsKeys) := by
  let update := fun row : KraDeviceRow => if row.id = id then change row else row
  have rows : (tenants.updateDevice id change keepsKeys).kraDevices =
      tenants.kraDevices.map update := rfl
  refine ⟨rfl, rfl, ⟨[], ?_, by simp⟩, ?_⟩
  · rw [List.append_nil]
    exact identities_update id change keepsKeys
  · intro other isOther notOwned
    have different : other.id ≠ id := fun sameId => notOwned (isOwned other isOther sameId)
    rw [rows]
    exact List.mem_map.mpr ⟨other, isOther, if_neg different⟩

/-- The device found by an SCU id and a taxpayer is the only one with its id. -/
theorem owned_of_deviceOfScu {kraScuId : Option String}
    (found : deviceOfScu tenants kraScuId owner = some device) :
    ∀ row ∈ tenants.kraDevices, row.id = device.id → row.taxpayerPinId = owner.id := by
  intro row isRow sameId
  have isStored := List.mem_of_find?_eq_some found
  have holds := List.find?_some found
  simp only [Bool.and_eq_true, decide_eq_true_eq] at holds
  have same := List.inj_on_of_nodup_map tenants.uniqueDeviceId isRow isStored sameId
  rw [same]
  exact holds.2

end Tables

/-! ## Sessions -/

section Sessions

variable {collate : String → String}

/-- The client stays, but for its base URL. -/
def SameClient (session session' : Session collate) : Prop :=
  ∀ url, { session'.gateway.kraApi with baseUrl := url } =
    { session.gateway.kraApi with baseUrl := url }

instance : IsPreorder (Session collate) SameClient where
  refl _ := fun _ => rfl
  trans _ _ _ := fun first second url => (second url).trans (first url)

/-- What a call made for `owner` may do. -/
structure ActsFor (owner : TaxpayerPin) (session session' : Session collate) : Prop where
  sends : ∃ sent, session'.calls = session.calls ++ sent ∧
    ∀ call ∈ sent, Command.pin call.command = some owner.pin
  records : ∃ added,
    session'.gateway.transactions.stored = session.gateway.transactions.stored ++ added ∧
      ∀ transaction ∈ added, transaction.taxpayerPinId = owner.id
  queues : ∃ queued, session'.gateway.jobs = session.gateway.jobs ++ queued ∧
    ∀ id ∈ queued, ∃ transaction ∈ session'.gateway.transactions.stored,
      transaction.id = id ∧ transaction.taxpayerPinId = owner.id
  keepsOthers : KeepsOthers owner session.tenants session'.tenants
  sameClient : SameClient session session'

instance (owner : TaxpayerPin) : IsPreorder (Session collate) (ActsFor owner) where
  refl session := ⟨⟨[], by simp, by simp⟩, ⟨[], by simp, by simp⟩, ⟨[], by simp, by simp⟩,
    Std.Refl.refl _, Std.Refl.refl session⟩
  trans first second third := by
    rintro ⟨⟨sent, calls, under⟩, ⟨added, rows, owned⟩, ⟨queued, jobs, ofOwned⟩, kept, client⟩
      ⟨⟨sent', calls', under'⟩, ⟨added', rows', owned'⟩, ⟨queued', jobs', ofOwned'⟩, kept',
        client'⟩
    refine ⟨⟨sent ++ sent', ?_, ?_⟩, ⟨added ++ added', ?_, ?_⟩, ⟨queued ++ queued', ?_, ?_⟩,
      IsTrans.trans _ _ _ kept kept', IsTrans.trans _ _ _ client client'⟩
    · rw [calls', calls, List.append_assoc]
    · intro call member
      rcases List.mem_append.mp member with isFirst | isSecond
      · exact under call isFirst
      · exact under' call isSecond
    · rw [rows', rows, List.append_assoc]
    · intro transaction member
      rcases List.mem_append.mp member with isFirst | isSecond
      · exact owned transaction isFirst
      · exact owned' transaction isSecond
    · rw [jobs', jobs, List.append_assoc]
    · intro id member
      rcases List.mem_append.mp member with isFirst | isSecond
      · obtain ⟨transaction, isStored, ofId, isOwned⟩ := ofOwned id isFirst
        refine ⟨transaction, ?_, ofId, isOwned⟩
        rw [rows']
        exact List.mem_append_left _ isStored
      · exact ofOwned' id isSecond

end Sessions

/-! ## Sending -/

section Sending

variable {collate : String → String} {pin : String} {world : World}

/-- Commands are sent under the PIN; the tables and the queue stay as they are. -/
structure OnlySends (pin : String) (session session' : Session collate) : Prop where
  sends : ∃ sent, session'.calls = session.calls ++ sent ∧
    ∀ call ∈ sent, Command.pin call.command = some pin
  sameTransactions : session'.gateway.transactions = session.gateway.transactions
  sameJobs : session'.gateway.jobs = session.gateway.jobs
  sameTenants : session'.tenants = session.tenants
  sameClient : SameClient session session'

instance (pin : String) : IsPreorder (Session collate) (OnlySends pin) where
  refl session := ⟨⟨[], by simp, by simp⟩, rfl, rfl, rfl, Std.Refl.refl session⟩
  trans first second third := by
    rintro ⟨⟨sent, calls, under⟩, transactions, jobs, tenants, client⟩
      ⟨⟨sent', calls', under'⟩, transactions', jobs', tenants', client'⟩
    refine ⟨⟨sent ++ sent', ?_, ?_⟩, transactions'.trans transactions, jobs'.trans jobs,
      tenants'.trans tenants, IsTrans.trans _ _ _ client client'⟩
    · rw [calls', calls, List.append_assoc]
    · intro call member
      rcases List.mem_append.mp member with isFirst | isSecond
      · exact under call isFirst
      · exact under' call isSecond

theorem onlySends_put (url : String) (session : Session collate) :
    OnlySends pin session (baseUrl.put url session) :=
  ⟨⟨[], (List.append_nil _).symm, by simp⟩, rfl, rfl, rfl, fun _ => rfl⟩

theorem onlySends_setBaseUrl (url : Except Throwable String) :
    Follows (OnlySends pin) (setBaseUrl url : Service collate Unit) :=
  (follows_raise url).bind fun text => follows_modify (onlySends_put text)

theorem onlySends_parseXml (body : String) :
    Follows (OnlySends pin) (parseXml world body : Service collate Xml) := by
  unfold parseXml
  cases world.platform.simplexmlLoadString body with
  | none => exact follows_raise _
  | some parsed => exact follows_pure parsed

theorem onlySends_sendCommand {endpoint : String} {xmlPayload : KraXml} {isStrictTimeout : Bool}
    (under : xmlPayload.pin = pin) :
    Follows (OnlySends pin) (sendCommand world endpoint xmlPayload isStrictTimeout :
      Service collate HttpResponse) := by
  intro session
  rw [sendCommand, exec_transmit]
  refine ⟨⟨_, rfl, fun call member => ?_⟩, rfl, rfl, rfl, fun _ => rfl⟩
  rw [List.mem_singleton.mp member, ← under]
  rfl

theorem onlySends_acknowledged {endpointPath message : String} {xmlPayload : KraXml}
    (under : xmlPayload.pin = pin) :
    Follows (OnlySends pin) (acknowledged world endpointPath message xmlPayload :
      Service collate Acknowledgement) :=
  (onlySends_sendCommand under).bind fun _ =>
    (onlySends_parseXml _).bind fun _ => follows_pure _

theorem onlySends_withBaseUrl {α : Type} {url : Except Throwable String}
    {body : Service collate α} (inside : Follows (OnlySends pin) body) :
    Follows (OnlySends pin) (withBaseUrl url body) :=
  Cell.follows_restoring onlySends_put (onlySends_setBaseUrl url) inside

end Sending

/-! ## Computing -/

section Computing

variable {collate : String → String} {R : Session collate → Session collate → Prop}
  [IsPreorder (Session collate) R] {α β : Type}

/-- The rest of a method knows what was computed before it. -/
theorem follows_raise_bind {outcome : Except Throwable α} {next : α → Service collate β}
    (others : ∀ value, outcome = .ok value → Follows R (next value)) :
    Follows R (raise outcome >>= next) :=
  Follows.bind_of_ensures (ensures_raise outcome) (follows_raise outcome) others

/-- A payload is built under the PIN it is given. -/
theorem follows_buildKraXml_bind {pin command : String} {data : List (String × Value)}
    {next : KraXml → Service collate β}
    (others : ∀ xmlPayload : KraXml, xmlPayload.pin = pin → Follows R (next xmlPayload)) :
    Follows R (raise (buildKraXml pin command data) >>= next) := by
  refine follows_raise_bind fun xmlPayload built => ?_
  obtain ⟨-, rfl⟩ := buildKraXml_eq_ok.mp built
  exact others _ rfl

end Computing

/-! ## The services -/

section Services

variable {collate : String → String} {owner : TaxpayerPin} (world : World)
  {kraDevice : KraDevice}

/-- The device is the taxpayer's, as its loaded model tells. -/
structure IsOf (owner : TaxpayerPin) (kraDevice : KraDevice) : Prop where
  hasPin : kraDevice.taxpayerPin = some owner.pin
  isOwned : kraDevice.taxpayerPinId = owner.id

theorem IsOf.eq_of_read (isOf : IsOf owner kraDevice) {pin : String}
    (read : kraDevice.pin = .ok pin) : pin = owner.pin := by
  rw [KraDevice.pin, isOf.hasPin] at read
  exact (Except.ok.inj read).symm

/-- A method first reads the PIN of the device's taxpayer. -/
theorem IsOf.follows_pin_bind (isOf : IsOf owner kraDevice)
    {R : Session collate → Session collate → Prop} [IsPreorder (Session collate) R] {β : Type}
    {next : String → Service collate β} (others : Follows R (next owner.pin)) :
    Follows R (raise kraDevice.pin >>= next) := by
  refine follows_raise_bind fun pin read => ?_
  rw [isOf.eq_of_read read]
  exact others

theorem onlySends_registerItem (isOf : IsOf owner kraDevice) (itemData : Entries) :
    Follows (OnlySends owner.pin)
      (KraItemService.registerItem world kraDevice itemData : Service collate Acknowledgement) :=
  follows_raise_bind fun _ _ => isOf.follows_pin_bind <| follows_buildKraXml_bind fun _ under =>
    onlySends_withBaseUrl (onlySends_acknowledged under)

theorem onlySends_getItems (isOf : IsOf owner kraDevice) :
    Follows (OnlySends owner.pin)
      (KraItemService.getItems world kraDevice : Service collate KraItemService.ItemList) :=
  isOf.follows_pin_bind <| follows_buildKraXml_bind fun _ under => onlySends_withBaseUrl <|
    (onlySends_sendCommand under).bind fun _ => (onlySends_parseXml _).bind fun _ => follows_pure _

theorem onlySends_sendInventoryMovement (isOf : IsOf owner kraDevice) (inventoryData : Entries) :
    Follows (OnlySends owner.pin) (KraInventoryService.sendInventoryMovement world kraDevice
      inventoryData : Service collate Acknowledgement) :=
  isOf.follows_pin_bind <| onlySends_withBaseUrl <| follows_raise_bind fun _ _ =>
    follows_buildKraXml_bind fun _ under => onlySends_acknowledged under

theorem onlySends_getInventoryData (isOf : IsOf owner kraDevice) (filterData : Entries) :
    Follows (OnlySends owner.pin) (KraInventoryService.getInventoryData world kraDevice
      filterData : Service collate KraInventoryService.StockList) := by
  refine isOf.follows_pin_bind <| onlySends_withBaseUrl ?_
  refine follows_buildKraXml_bind fun _ under => (onlySends_sendCommand under).bind fun _ => ?_
  refine (onlySends_parseXml _).bind fun parsedXml => ?_
  dsimp only
  split <;> exact follows_pure _

theorem onlySends_sendPurchase (isOf : IsOf owner kraDevice) (purchaseData : Entries) :
    Follows (OnlySends owner.pin)
      (KraPurchaseService.sendPurchase world kraDevice purchaseData : Service collate String) := by
  refine isOf.follows_pin_bind <| onlySends_withBaseUrl ?_
  refine follows_raise_bind fun _ _ => follows_buildKraXml_bind fun _ under => ?_
  refine (onlySends_sendCommand under).bind fun _ => follows_raise_bind fun items _ => ?_
  refine Follows.bind ?_ fun _ => follows_pure _
  -- Every item is sent under the PIN of the header.
  refine Follows.forM fun item _ => follows_raise_bind fun _ _ => follows_raise_bind fun _ _ => ?_
  exact follows_buildKraXml_bind fun _ underToo =>
    (onlySends_sendCommand underToo).bind fun _ => follows_pure _

theorem onlySends_getPurchases (isOf : IsOf owner kraDevice) :
    Follows (OnlySends owner.pin) (KraPurchaseService.getPurchases world kraDevice :
      Service collate KraPurchaseService.PurchaseList) := by
  refine isOf.follows_pin_bind <| onlySends_withBaseUrl ?_
  refine follows_buildKraXml_bind fun _ under => (onlySends_sendCommand under).bind fun _ => ?_
  refine (onlySends_parseXml _).bind fun _ => follows_buildKraXml_bind fun _ underToo => ?_
  exact (onlySends_sendCommand underToo).bind fun _ =>
    (onlySends_parseXml _).bind fun _ => follows_pure _

theorem onlySends_retrieve {ρ : Type} {endpointPath missing message : String} {read : Xml → ρ}
    {pin : String} {xmlPayload : KraXml} (under : xmlPayload.pin = pin) :
    Follows (OnlySends pin) (KraReportService.retrieve world kraDevice endpointPath missing
      message read xmlPayload : Service collate (KraReportService.Retrieved ρ)) := by
  refine onlySends_withBaseUrl ((onlySends_sendCommand under).bind fun _ => ?_)
  refine (onlySends_parseXml _).bind fun parsedXml => ?_
  cases parsedXml.child? "DATA" with
  | none => exact follows_raise _
  | some dataNode => exact follows_pure _

theorem onlySends_getXDailyReport (isOf : IsOf owner kraDevice) :
    Follows (OnlySends owner.pin) (KraReportService.getXDailyReport world kraDevice :
      Service collate (KraReportService.Retrieved KraReportService.DailyReport)) :=
  isOf.follows_pin_bind <| follows_buildKraXml_bind fun _ under => onlySends_retrieve world under

theorem onlySends_generateZDailyReport (isOf : IsOf owner kraDevice) :
    Follows (OnlySends owner.pin) (KraReportService.generateZDailyReport world kraDevice :
      Service collate (KraReportService.Retrieved KraReportService.DailyReport)) :=
  isOf.follows_pin_bind <| follows_buildKraXml_bind fun _ under => onlySends_retrieve world under

theorem onlySends_getPLUReport (isOf : IsOf owner kraDevice) (startDate endDate : Option String) :
    Follows (OnlySends owner.pin) (KraReportService.getPLUReport world kraDevice startDate
      endDate : Service collate (KraReportService.Retrieved KraReportService.PluReport)) :=
  isOf.follows_pin_bind <| follows_raise_bind fun _ _ => follows_raise_bind fun _ _ =>
    follows_buildKraXml_bind fun _ under => onlySends_retrieve world under

section Relations

variable {R : Session collate → Session collate → Prop} [IsPreorder (Session collate) R]

theorem pin_of_signingXml {sale : Sale} {pin : String} {xmlPayload : KraXml}
    (read : sale.device.pin = .ok pin) (signed : signingXml sale = .ok xmlPayload) :
    xmlPayload.pin = pin := by
  obtain ⟨other, isOther, rest⟩ := bind_eq_ok.mp signed
  obtain ⟨data, -, built⟩ := bind_eq_ok.mp rest
  obtain ⟨-, rfl⟩ := buildKraXml_eq_ok.mp built
  exact Except.ok.inj (isOther.symm.trans read)

/-- A sale sends its command and records the answer. -/
theorem follows_processTransaction (transactionData : Entries)
    (sends : ∀ pin, kraDevice.pin = .ok pin →
      ∀ before after : Session collate, OnlySends pin before after → R before after)
    (records : ∀ xmlPayload response, Follows R
      (recordSale world (saleOf world kraDevice transactionData) xmlPayload response :
        Service collate Transaction)) :
    Follows R (processTransaction world kraDevice transactionData :
      Service collate Transaction) := by
  have reads : Follows R (baseUrl.read : Service collate String) := by
    intro session
    rw [Cell.exec_read]
    exact Std.Refl.refl session
  refine follows_raise_bind fun pin read => reads.bind fun original => ?_
  have sending := sends pin read
  refine ((onlySends_setBaseUrl _).mono sending).bind fun _ => ?_
  refine follows_raise_bind fun xmlPayload signed => ?_
  refine Follows.tryFinally ?_
    (follows_modify fun session => sending _ _ (onlySends_put original session))
  have under := pin_of_signingXml read signed
  exact ((onlySends_sendCommand under).mono sending).bind fun response =>
    records xmlPayload response

theorem follows_updateRow {row : KraDeviceRow}
    (writes : ∀ (before : Session collate) change keepsKeys, R before
      { before with tenants := before.tenants.updateDevice row.id change keepsKeys })
    (change : KraDeviceRow → KraDeviceRow)
    (keepsKeys : ∀ row, (change row).id = row.id ∧ (change row).kraScuId = row.kraScuId ∧
      (change row).taxpayerPinId = row.taxpayerPinId) :
    Follows R (updateDevice world row.id change keepsKeys : Service collate Unit) := by
  unfold updateDevice
  cases world.database with
  | some message => exact follows_raise _
  | none => exact follows_modify fun session => writes session change keepsKeys

/-- A status check sends its command and writes to the row of its device. -/
theorem getDeviceStatus_relates {session : Session collate} {row : KraDeviceRow}
    (sends : ∀ pin, (session.tenants.kraDevice row).pin = .ok pin →
      ∀ before after : Session collate, OnlySends pin before after → R before after)
    (writes : ∀ (before : Session collate) change keepsKeys, R before
      { before with tenants := before.tenants.updateDevice row.id change keepsKeys }) :
    R session (exec (getDeviceStatus world row) session).2 := by
  apply Follows.get_bind
  refine follows_raise_bind fun pin read => follows_buildKraXml_bind fun xmlPayload under => ?_
  have sending := sends pin read
  refine Cell.follows_restoring (fun url between => sending _ _ (onlySends_put url between)) ?_ ?_
  · unfold switchIf
    split
    next => exact (onlySends_setBaseUrl _).mono sending
    next => exact follows_pure _
  · refine Follows.tryCatch ?_ fun thrown => ?_
    · refine ((onlySends_sendCommand under).mono sending).bind fun response => ?_
      refine ((onlySends_parseXml _).mono sending).bind fun parsedXml => ?_
      cases parsedXml.child? "DATA" with
      | none => exact follows_raise _
      | some dataNode => exact (follows_updateRow world writes _ _).bind fun _ => follows_pure _
    · cases thrown with
      | kraApi e => exact (follows_updateRow world writes _ _).bind fun _ => follows_throw _
      | php other => exact follows_throw _

end Relations

/-! ### The sale -/

theorem actsFor_of_onlySends {session session' : Session collate}
    (onlySends : OnlySends owner.pin session session') : ActsFor owner session session' := by
  obtain ⟨sends, sameTransactions, sameJobs, sameTenants, sameClient⟩ := onlySends
  refine ⟨sends, ⟨[], ?_, by simp⟩, ⟨[], ?_, by simp⟩, ?_, sameClient⟩
  · rw [sameTransactions, List.append_nil]
  · rw [sameJobs, List.append_nil]
  · rw [sameTenants]
    exact Std.Refl.refl _

/-- At most one row is recorded, for the device of the sale. -/
theorem actsFor_recordSale {sale : Sale} (isOf : IsOf owner sale.device) (xmlPayload : KraXml)
    (response : HttpResponse) :
    Follows (ActsFor owner)
      (recordSale world sale xmlPayload response : Service collate Transaction) := by
  intro session
  rw [exec_recordSale]
  have recording := @record_cases _ world.platform world.config sale world.database world.queue
    session.gateway xmlPayload response
  have keepsClient := @kraApi_record _ world sale xmlPayload response session.gateway
  generalize KraSalesService.record world.platform world.config sale xmlPayload world.database
    world.queue session.gateway response = recorded at recording keepsClient ⊢
  have sameClient : SameClient session { session with gateway := recorded.2 } :=
    fun url => congrArg (fun client : KraApi => { client with baseUrl := url }) keepsClient
  rcases recording with ⟨-, sameRows, sameJobs⟩ | ⟨transaction, read, inserted, queued⟩
  · exact ⟨⟨[], by simp, by simp⟩, ⟨[], by simp [sameRows], by simp⟩,
      ⟨[], by simpa using sameJobs, by simp⟩, Std.Refl.refl _, sameClient⟩
  · have isOwned : transaction.taxpayerPinId = owner.id := by
      obtain ⟨_, _, _, _, _, -, -, -, -, -, rfl⟩ := readAnswer_eq_ok read
      exact isOf.isOwned
    obtain ⟨-, rows⟩ := TransactionsTable.insert_eq_ok inserted
    have isStored : transaction ∈ recorded.2.transactions.stored := by simp [rows]
    refine ⟨⟨[], by simp, by simp⟩, ⟨[transaction], rows, by simpa using isOwned⟩, ?_,
      Std.Refl.refl _, sameClient⟩
    rcases queued with ⟨-, -, jobs⟩ | ⟨-, -, jobs⟩
    · exact ⟨[transaction.id], jobs, by simpa using ⟨transaction, isStored, rfl, isOwned⟩⟩
    · exact ⟨[], by simpa using jobs, by simp⟩

theorem actsFor_processTransaction (isOf : IsOf owner kraDevice) (transactionData : Entries) :
    Follows (ActsFor owner)
      (processTransaction world kraDevice transactionData : Service collate Transaction) := by
  refine follows_processTransaction world transactionData (fun pin read before after => ?_)
    (actsFor_recordSale world isOf)
  rw [isOf.eq_of_read read]
  exact actsFor_of_onlySends

/-! ### The status check -/

/-- The device with this id, if there is one, is the taxpayer's. -/
def OwnedBy (owner : TaxpayerPin) (id : String) (session : Session collate) : Prop :=
  ∀ device ∈ session.tenants.kraDevices, device.id = id → device.taxpayerPinId = owner.id

/-- Nobody takes the taxpayer's device away. -/
theorem OwnedBy.kept {id : String} {session session' : Session collate}
    (owned : OwnedBy owner id session) (acts : ActsFor owner session session') :
    OwnedBy owner id session' := by
  intro device isStored hasId
  obtain ⟨added, rows, ofOwner⟩ := acts.keepsOthers.registers
  have isIdentity : identity device ∈ session'.tenants.kraDevices.map identity :=
    List.mem_map_of_mem isStored
  rw [rows] at isIdentity
  rcases List.mem_append.mp isIdentity with isOld | isNew
  · obtain ⟨old, wasStored, same⟩ := List.mem_map.mp isOld
    obtain ⟨sameId, sameOwner, -⟩ : old.id = device.id ∧
        old.taxpayerPinId = device.taxpayerPinId ∧ old.kraScuId = device.kraScuId := by
      simpa [identity] using same
    rw [← sameOwner]
    exact owned old wasStored (sameId.trans hasId)
  · exact ofOwner _ isNew

/-- What a call made for `owner` may do as long as the device is the taxpayer's. -/
def ActsIfOwned (owner : TaxpayerPin) (id : String) (session session' : Session collate) : Prop :=
  OwnedBy owner id session → ActsFor owner session session'

instance (owner : TaxpayerPin) (id : String) :
    IsPreorder (Session collate) (ActsIfOwned owner id) where
  refl session := fun _ => Std.Refl.refl session
  trans _ _ _ := fun acts acts' owned =>
    IsTrans.trans _ _ _ (acts owned) (acts' (owned.kept (acts owned)))

/-- The device is stored, and the taxpayer's. -/
theorem actsFor_getDeviceStatus {session : Session collate} {row : KraDeviceRow}
    (owns : session.tenants.Owns owner row) :
    ActsFor owner session (exec (getDeviceStatus world row) session).2 := by
  have owned : OwnedBy owner row.id session := by
    intro device isStored sameId
    rw [List.inj_on_of_nodup_map session.tenants.uniqueDeviceId isStored owns.isDevice sameId]
    exact owns.belongs
  have isOf : IsOf owner (session.tenants.kraDevice row) := ⟨owns.pin, owns.belongs⟩
  -- Whatever the check does to the row, the device stays the taxpayer's.
  have acts : ActsIfOwned owner row.id session (exec (getDeviceStatus world row) session).2 := by
    refine getDeviceStatus_relates world (fun pin read before after sends _ => ?_)
      fun before change keepsKeys ownedBefore => ?_
    · rw [isOf.eq_of_read read] at sends
      exact actsFor_of_onlySends sends
    · exact ⟨⟨[], by simp, by simp⟩, ⟨[], by simp, by simp⟩, ⟨[], by simp, by simp⟩,
        keepsOthers_update ownedBefore change keepsKeys, fun _ => rfl⟩
  exact acts owned

/-! ### The activation -/

section Activation

variable {world} {tenants tenants' : Tenants} {activation : Activation} {url : String}
  {row : KraDeviceRow}

/-- What a settled activation does to the tables: it inserts the row, or writes to a row of the
taxpayer, or does nothing. -/
inductive Settles (world : World) (tenants tenants' : Tenants) (taxpayer : TaxpayerPin)
    (row : KraDeviceRow) : Prop where
  | inserts (inserted : tenants.insertDevice row = .ok tenants') (hasId : row.id = world.uuid)
      (isOwned : row.taxpayerPinId = taxpayer.id)
  | updates (id : String) (change : KraDeviceRow → KraDeviceRow)
      (keepsKeys : ∀ row, (change row).id = row.id ∧ (change row).kraScuId = row.kraScuId ∧
        (change row).taxpayerPinId = row.taxpayerPinId)
      (isOwned : ∀ other ∈ tenants.kraDevices, other.id = id → other.taxpayerPinId = taxpayer.id)
      (updated : tenants' = tenants.updateDevice id change keepsKeys)
  | keeps (same : tenants' = tenants)

theorem settles_granted {response : HttpResponse}
    (isGranted : granted world tenants activation url response = .ok (row, tenants')) :
    Settles world tenants tenants' activation.taxpayerPin row := by
  unfold granted at isGranted
  split at isGranted
  next => cases isGranted
  next =>
    obtain ⟨made, isMade, rest⟩ := bind_eq_ok.mp isGranted
    obtain ⟨-, -, -, -, hasId, isOwned, -, -⟩ := activatedRow_cases isMade
    cases works : world.database with
    | some message =>
        rw [works] at rest
        cases rest
    | none =>
        rw [works] at rest
        cases found : deviceOfScu tenants (bindingText (sdcId world response))
            activation.taxpayerPin with
        | none =>
            rw [found] at rest hasId
            obtain ⟨inserted, isInserted, same⟩ := bind_eq_ok.mp rest
            obtain ⟨rfl, rfl⟩ := Prod.mk.inj (Except.ok.inj same)
            exact .inserts isInserted hasId isOwned
        | some device =>
            rw [found] at rest
            obtain ⟨rfl, rfl⟩ := Prod.mk.inj (Except.ok.inj rest)
            exact .updates _ _ _ (owned_of_deviceOfScu found) rfl

theorem settles_refused {e : KraApiException}
    (isRefused : refused world tenants activation e = .ok (row, tenants')) :
    Settles world tenants tenants' activation.taxpayerPin row := by
  unfold refused at isRefused
  split at isRefused
  next =>
    split at isRefused
    next => cases isRefused
    next text isText =>
      split at isRefused
      next => cases isRefused
      next =>
        dsimp only at isRefused
        split at isRefused
        next => cases isRefused
        next device found =>
          obtain ⟨kraScuId, -, isFound⟩ := Option.bind_eq_some_iff.mp found
          split at isRefused
          next =>
            obtain ⟨rfl, rfl⟩ := Prod.mk.inj (Except.ok.inj isRefused)
            exact .keeps rfl
          next =>
            split at isRefused
            next => cases isRefused
            next =>
              obtain ⟨rfl, rfl⟩ := Prod.mk.inj (Except.ok.inj isRefused)
              exact .updates _ _ _ (owned_of_deviceOfScu isFound) rfl
  next => cases isRefused

/-- What is settled was granted, or refused and recovered. -/
theorem settled_cases {outcome : Except Thrown HttpResponse}
    (isSettled : settled world tenants activation url outcome = .ok (row, tenants')) :
    (∃ response, granted world tenants activation url response = .ok (row, tenants')) ∨
      ∃ e, refused world tenants activation e = .ok (row, tenants') := by
  cases outcome with
  | ok response =>
      cases isGranted : granted world tenants activation url response with
      | error thrown => simp [settled, isGranted, Except.mapError] at isSettled
      | ok value =>
          obtain rfl : value = (row, tenants') := by
            simpa [settled, isGranted, Except.mapError] using isSettled
          exact .inl ⟨response, isGranted⟩
  | error thrown =>
      cases thrown with
      | php other => cases isSettled
      | kraApi e => exact .inr ⟨e, isSettled⟩

theorem settles_settled {outcome : Except Thrown HttpResponse}
    (isSettled : settled world tenants activation url outcome = .ok (row, tenants')) :
    Settles world tenants tenants' activation.taxpayerPin row := by
  rcases settled_cases isSettled with ⟨response, isGranted⟩ | ⟨e, isRefused⟩
  · exact settles_granted isGranted
  · exact settles_refused isRefused

theorem Settles.keepsOthers {taxpayer : TaxpayerPin}
    (settles : Settles world tenants tenants' taxpayer row) :
    KeepsOthers taxpayer tenants tenants' := by
  cases settles with
  | inserts inserted hasId isOwned => exact keepsOthers_insert inserted isOwned
  | updates id change keepsKeys isOwned updated =>
      rw [updated]
      exact keepsOthers_update isOwned change keepsKeys
  | keeps same =>
      rw [same]
      exact Std.Refl.refl _

/-- The activation is asked for, and the device registered, in the taxpayer's name. -/
theorem actsFor_initializeDevice {session : Session collate} {data : Entries}
    (accepted : readActivation session.tenants (.arr data) = .ok activation) :
    ActsFor activation.taxpayerPin session (exec (initializeDevice world data) session).2 := by
  rw [exec_initializeDevice_of_sent accepted]
  have sends : ∀ call ∈ [(⟨activationUrl world session activation, "/initiolises",
      .json (activationPayload activation), true⟩ : Services.Call)],
      Command.pin call.command = some activation.taxpayerPin.pin := by
    intro call member
    rw [List.mem_singleton.mp member]
    rfl
  cases isSettled : settled world session.tenants activation
      (activationUrl world session activation) (activationOutcome world session activation) with
  | error thrown =>
      exact ⟨⟨_, rfl, sends⟩, ⟨[], by simp [leave], by simp⟩, ⟨[], by simp [leave], by simp⟩,
        Std.Refl.refl _, fun _ => rfl⟩
  | ok value =>
      exact ⟨⟨_, rfl, sends⟩, ⟨[], by simp [leave], by simp⟩, ⟨[], by simp [leave], by simp⟩,
        (settles_settled isSettled).keepsOthers, fun _ => rfl⟩

/-- An activation that names no taxpayer does nothing. -/
theorem exec_initializeDevice_of_unread {session : Session collate} {data : Entries}
    {thrown : Throwable}
    (unread : readActivation session.tenants (.arr data) = .error thrown) :
    exec (initializeDevice world data) session = (.error (.php thrown), session) := by
  rw [initializeDevice, exec_bind_ok (exec_get session), unread, exec_raise_bind_error]

end Activation

end Services

/-! ## Calls -/

section Calls

variable {collate : String → String}

/-- The call is made for a taxpayer: on a device of its own, or to activate one. -/
def ServiceCall.IsFor (owner : TaxpayerPin) (tenants : Tenants) : ServiceCall → Prop
  | .initializeDevice data =>
      ∃ activation, readActivation tenants (.arr data) = .ok activation ∧
        activation.taxpayerPin = owner
  | .getDeviceStatus row => tenants.Owns owner row
  | .processTransaction kraDevice _ | .sendPurchase kraDevice _ | .getPurchases kraDevice
  | .sendInventoryMovement kraDevice _ | .getInventoryData kraDevice _
  | .registerItem kraDevice _ | .getItems kraDevice | .getXDailyReport kraDevice
  | .generateZDailyReport kraDevice | .getPLUReport kraDevice _ _ => IsOf owner kraDevice

theorem leaves_actsFor (world : World) {session : Session collate} {call : ServiceCall}
    {owner : TaxpayerPin} (isFor : call.IsFor owner session.tenants) :
    ActsFor owner session (leaves world session call) := by
  cases call with
  | processTransaction _ transactionData =>
      exact actsFor_processTransaction world isFor transactionData session
  | initializeDevice data =>
      obtain ⟨activation, accepted, rfl⟩ := isFor
      exact actsFor_initializeDevice accepted
  | getDeviceStatus row => exact actsFor_getDeviceStatus world isFor
  | sendPurchase _ purchaseData =>
      exact actsFor_of_onlySends (onlySends_sendPurchase world isFor purchaseData session)
  | getPurchases => exact actsFor_of_onlySends (onlySends_getPurchases world isFor session)
  | sendInventoryMovement _ inventoryData =>
      exact actsFor_of_onlySends
        (onlySends_sendInventoryMovement world isFor inventoryData session)
  | getInventoryData _ filterData =>
      exact actsFor_of_onlySends (onlySends_getInventoryData world isFor filterData session)
  | registerItem _ itemData =>
      exact actsFor_of_onlySends (onlySends_registerItem world isFor itemData session)
  | getItems => exact actsFor_of_onlySends (onlySends_getItems world isFor session)
  | getXDailyReport => exact actsFor_of_onlySends (onlySends_getXDailyReport world isFor session)
  | generateZDailyReport =>
      exact actsFor_of_onlySends (onlySends_generateZDailyReport world isFor session)
  | getPLUReport _ startDate endDate =>
      exact actsFor_of_onlySends (onlySends_getPLUReport world isFor startDate endDate session)

end Calls

/-- The theorem at a check of the first shop's till that nobody answers. -/
theorem leaves_actsFor_shopTill :
    ActsFor Access.shopOwner Devices.shopSession
      (leaves offlineWorld Devices.shopSession (.getDeviceStatus Access.shopTill)) :=
  leaves_actsFor offlineWorld Access.shopTill_owned

end TaxGateway.Client
