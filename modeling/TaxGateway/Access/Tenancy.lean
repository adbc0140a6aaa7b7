import TaxGateway.Access.Isolation
import TaxGateway.Access.Server
import TaxGateway.Client.Footprints
import TaxGateway.Foundations.Transitions

/-!
Contract: what the requests of one client can do to the taxpayers of another.

Owns:
- for whom a client may act, by either store;
- that a request acts for one taxpayer for whom its client may act, or not at all;
- that a taxpayer for whom no client of a run may act is left alone by the run.

Does not own: what a client may learn.
-/

namespace TaxGateway.Access

open TaxGateway.Php
open TaxGateway.Validation
open TaxGateway.Database
open TaxGateway.Effects
open TaxGateway.Transitions
open TaxGateway.Services
open TaxGateway.Exceptions
open TaxGateway.Http
open TaxGateway.Client (ActsFor IsOf OnlySends identity)

/-- The client's list has the PIN, or a row links the two. The list is searched as the
source does, with `in_array` and without its `strict`: for PINs that are numeric texts an
entry counts that is another text of the same number, such as `1e3` for `1000`. -/
def MayActFor (database : Tenants) (client : ApiClient) (owner : TaxpayerPin) : Prop :=
  inArray (.str owner.pin) (allowedPins client) = true ∨ owner ∈ database.linkedPins client

/-! ## Admitted requests -/

section Served

variable {otherFailures : Endpoint → Entries → List Failure} {database : Tenants}
  {client : ApiClient} {endpoint : Endpoint} {request : Request} {device : KraDeviceRow}

/-- A PIN that passes its checks is a text. -/
theorem taxpayerPin_of_valid {input : Entries} (valid : tenantFailures database input = [])
    {pin : String} (isPin : boundText ((read input "taxpayerPin").getD .null) = some pin) :
    (read input "taxpayerPin").getD .null = .str pin := by
  have noFailure : pinFailures database (read input "taxpayerPin") = [] := by
    simpa using (List.append_eq_nil_iff.mp valid).2
  unfold pinFailures at noFailure
  split at noFailure
  next => cases noFailure
  next =>
    split at noFailure
    next text given =>
      rw [given] at isPin ⊢
      exact congrArg Value.str (Option.some.inj isPin)
    next => cases noFailure

theorem formReply_eq_served {authorization : Authorization}
    (served : formReply otherFailures database authorization endpoint request =
      .served device) :
    authorization = .ok (some device) ∧ tenantFailures database request.input = [] ∧
      otherFailures endpoint request.input = [] := by
  unfold formReply at served
  split at served
  next => cases served
  next => cases served
  next found =>
    dsimp only at served
    split at served
    next => cases served
    next valid =>
      obtain rfl := Reply.served.inj served
      exact ⟨rfl, List.append_eq_nil_iff.mp (not_not.mp valid)⟩

theorem activeClient_eq_some {other : ApiClient}
    (active : activeClient (some client) = some other) : other = client := by
  simpa using (Option.filter_eq_some_iff.mp active).1.symm

theorem owns_of_allowedDevice {gatewayDeviceId : Value}
    (found : allowedDevice database gatewayDeviceId client = some device) :
    ∃ owner, database.Owns owner device ∧ MayActFor database client owner := by
  obtain ⟨-, owner, owns, isAllowed⟩ := Tenants.findDevice_eq_some found
  exact ⟨owner, owns, .inl (inArray_of_mem (List.contains_iff_mem.mp isAllowed))⟩

theorem owns_of_linkedDeviceOfPin {gatewayDeviceId taxpayerPin : Value}
    (found : linkedDeviceOfPin database gatewayDeviceId taxpayerPin client = some device) :
    ∃ owner, database.Owns owner device ∧ MayActFor database client owner := by
  obtain ⟨-, owner, owns, isAllowed⟩ := Tenants.findDevice_eq_some found
  rw [Bool.and_eq_true, contains_linkedIds owns] at isAllowed
  exact ⟨owner, owns, .inr (of_decide_eq_true isAllowed.2)⟩

theorem owns_of_registerItem {gatewayDeviceId taxpayerPin : Value}
    (authorized : RegisterKraItemRequest.authorize database (some client) gatewayDeviceId
      taxpayerPin = .ok (some device)) :
    ∃ owner, database.Owns owner device ∧ MayActFor database client owner := by
  unfold RegisterKraItemRequest.authorize at authorized
  split at authorized
  next => cases authorized
  next active =>
    dsimp only at authorized
    obtain rfl := activeClient_eq_some active
    split at authorized
    next => cases authorized
    next => exact owns_of_linkedDeviceOfPin (Except.ok.inj authorized)

theorem owns_of_sendMovement {gatewayDeviceId taxpayerPin : Value}
    (authorized : SendKraInventoryMovementRequest.authorize database (some client)
      gatewayDeviceId taxpayerPin = .ok (some device)) :
    ∃ owner, database.Owns owner device ∧ MayActFor database client owner := by
  unfold SendKraInventoryMovementRequest.authorize at authorized
  split at authorized
  next => cases authorized
  next active =>
    dsimp only at authorized
    obtain rfl := activeClient_eq_some active
    split at authorized
    next => cases authorized
    next => exact owns_of_linkedDeviceOfPin (Except.ok.inj authorized)

/-- A sale is authorized on an activated device of a PIN in the client's list. -/
theorem deviceOfPin_of_authorize {gatewayDeviceId taxpayerPin : Value}
    (authorized : ProcessTransactionRequest.authorize database (some client) gatewayDeviceId
      taxpayerPin = .ok (some device)) :
    inArray taxpayerPin (allowedPins client) = true ∧
      deviceOfPin database gatewayDeviceId taxpayerPin = some device ∧
      device.status = .ACTIVATED := by
  unfold ProcessTransactionRequest.authorize at authorized
  split at authorized
  next => cases authorized
  next active =>
    dsimp only at authorized
    obtain rfl := activeClient_eq_some active
    split at authorized
    next => cases authorized
    next loosely =>
      split at authorized
      next => cases authorized
      next found isFound =>
        split at authorized
        next => cases authorized
        next activated =>
          obtain rfl := Option.some.inj (Except.ok.inj authorized)
          exact ⟨by simpa using loosely, isFound, not_not.mp activated⟩

theorem owns_of_sale (valid : tenantFailures database request.input = [])
    (authorized : ProcessTransactionRequest.authorize database (some client)
      (request.value "gatewayDeviceId") (request.value "taxpayerPin") = .ok (some device)) :
    ∃ owner, database.Owns owner device ∧ MayActFor database client owner := by
  obtain ⟨loosely, isFound, -⟩ := deviceOfPin_of_authorize authorized
  obtain ⟨-, owner, owns, ofPin⟩ := Tenants.findDevice_eq_some isFound
  have isPin : request.value "taxpayerPin" = .str owner.pin :=
    taxpayerPin_of_valid valid (of_decide_eq_true ofPin)
  rw [isPin] at loosely
  exact ⟨owner, owns, .inl loosely⟩

/-- A request is served on a device of a taxpayer for whom its client may act. -/
theorem owns_of_served
    (served : reply otherFailures database client endpoint request = .served device) :
    ∃ owner, database.Owns owner device ∧ MayActFor database client owner := by
  cases endpoint with
  | deviceStatus =>
      unfold reply at served
      dsimp only at served
      split at served
      next found =>
        obtain rfl := Reply.served.inj served
        exact owns_of_allowedDevice found
      next => cases served
  | registerItem => exact owns_of_registerItem (formReply_eq_served served).1
  | sendPurchase =>
      obtain ⟨authorized, -⟩ := formReply_eq_served served
      rw [SendKraPurchaseRequest.authorize_eq] at authorized
      exact owns_of_registerItem authorized
  | sendMovement => exact owns_of_sendMovement (formReply_eq_served served).1
  | processTransaction =>
      obtain ⟨authorized, valid, -⟩ := formReply_eq_served served
      exact owns_of_sale valid authorized
  | getItems | getPurchases | xDailyReport | zDailyReport | pluReport =>
      rw [reply_of_isQuery otherFailures rfl, queryReply_eq_served_iff] at served
      exact owns_of_allowedDevice served.2

end Served

section Activation

variable {database : Tenants} {client : ApiClient} {input : Entries}

/-- An admitted activation is for the taxpayer it names, and the client is linked to it. -/
theorem linked_of_activation
    (authorized : InitializeKraDeviceRequest.authorize database (some client) input = true)
    (valid : InitializeKraDeviceRequest.failedFields database input = [])
    {activation : KraDeviceService.Activation}
    (accepted : KraDeviceService.readActivation database
      (.arr (KraDeviceController.initializeData database input)) = .ok activation) :
    activation.taxpayerPin ∈ database.linkedPins client ∧
      read input "taxpayerPin" = some (.str activation.taxpayerPin.pin) := by
  have allPass : ∀ attr ∈ InitializeKraDeviceRequest.rules database,
      attr.accepts input = true := by
    simpa [InitializeKraDeviceRequest.failedFields, List.filter_eq_nil_iff] using valid
  have passing := allPass _ List.mem_cons_self
  simp only [Attribute.accepts, Attribute.name, Attribute.field, Bool.and_true] at passing
  obtain ⟨text, isText⟩ := str_of_passes_required passing (by simp) (by simp)
  obtain ⟨pin, given, rest⟩ := bind_eq_ok.mp accepted
  obtain ⟨taxpayer, found, rest⟩ := bind_eq_ok.mp rest
  obtain ⟨_, -, rest⟩ := bind_eq_ok.mp rest
  obtain ⟨_, -, rest⟩ := bind_eq_ok.mp rest
  obtain ⟨_, -, same⟩ := bind_eq_ok.mp rest
  obtain rfl := Except.ok.inj same
  -- The PIN that was authorized is the one the service looks up.
  have isPin : pin = .str text := by
    have written : (KraDeviceController.initializeData database input).lookup
        (.str "taxpayerPin") = some ((read input "taxpayerPin").getD .null) :=
      Value.lookup_assignKey_self _ _ _
    rw [Payloads.offset, written, isText] at given
    exact (Except.ok.inj given).symm
  have linked : isPinAllowedForClient database (.str text) client = true := by
    unfold InitializeKraDeviceRequest.authorize at authorized
    split at authorized
    next => cases authorized
    next active =>
      obtain rfl := activeClient_eq_some active
      rw [isText] at authorized
      dsimp only [Option.getD_some] at authorized
      split at authorized
      next => cases authorized
      next => exact (Bool.and_eq_true_iff.mp authorized).2
  obtain ⟨other, isLinked, ofPin⟩ := List.any_eq_true.mp linked
  have otherPin : text = other.pin := by simpa using ofPin
  unfold KraDeviceService.taxpayerOfPin at found
  split at found
  next stored isStored =>
    obtain rfl := Except.ok.inj found
    have storedPin : text = stored.pin := by
      simpa [isPin, bindingText, scalarText] using List.find?_some isStored
    have same : stored = other :=
      List.inj_on_of_nodup_map database.uniquePin (List.mem_of_find?_eq_some isStored)
        (List.mem_filter.mp isLinked).1 (storedPin.symm.trans otherPin)
    rw [isText, same, otherPin]
    exact ⟨isLinked, rfl⟩
  next => cases found

end Activation

/-! ## What an action does -/

section Actions

variable {collate : String → String} {world : World} {session : Session collate}

/-- A service called on a taxpayer's device, a sale and a status check apart, sends commands
under the taxpayer's PIN and does nothing else. -/
theorem serve_onlySends {owner : TaxpayerPin} {device : KraDeviceRow}
    (owns : session.tenants.Owns owner device) (arrayOf : Xml → Value) {endpoint : Endpoint}
    (request : ApiRequest) (noSale : endpoint ≠ .processTransaction)
    (noCheck : endpoint ≠ .deviceStatus) :
    OnlySends owner.pin session
      (exec (serve world arrayOf endpoint device request) session).2 := by
  have isOf : IsOf owner (session.tenants.kraDevice device) := ⟨owns.pin, owns.belongs⟩
  cases endpoint with
  | processTransaction => exact absurd rfl noSale
  | deviceStatus => exact absurd rfl noCheck
  | registerItem =>
      apply Follows.get_bind
      exact (Client.onlySends_registerItem world isOf _).bind fun _ => follows_pure _
  | getItems =>
      apply Follows.get_bind
      exact (Client.onlySends_getItems world isOf).bind fun _ => follows_pure _
  | sendPurchase =>
      apply Follows.get_bind
      exact (Client.onlySends_sendPurchase world isOf _).bind fun _ => follows_pure _
  | getPurchases =>
      apply Follows.get_bind
      exact (Client.onlySends_getPurchases world isOf).bind fun _ => follows_pure _
  | sendMovement =>
      apply Follows.get_bind
      exact (Client.onlySends_sendInventoryMovement world isOf _).bind fun _ => follows_pure _
  | xDailyReport =>
      apply Follows.get_bind
      exact (Client.onlySends_getXDailyReport world isOf).bind fun _ => follows_pure _
  | zDailyReport =>
      apply Follows.get_bind
      exact (Client.onlySends_generateZDailyReport world isOf).bind fun _ => follows_pure _
  | pluReport =>
      apply Follows.get_bind
      exact (Client.onlySends_getPLUReport world isOf _ _).bind fun _ => follows_pure _

/-- A service called on a taxpayer's device acts for the taxpayer. -/
theorem serve_actsFor {owner : TaxpayerPin} {device : KraDeviceRow}
    (owns : session.tenants.Owns owner device) (arrayOf : Xml → Value) (endpoint : Endpoint)
    (request : ApiRequest) :
    ActsFor owner session
      (exec (serve world arrayOf endpoint device request) session).2 := by
  have isOf : IsOf owner (session.tenants.kraDevice device) := ⟨owns.pin, owns.belongs⟩
  by_cases isSale : endpoint = .processTransaction
  · subst isSale
    apply Follows.get_bind
    exact Client.follows_raise_bind fun _ _ =>
      (Client.actsFor_processTransaction world isOf _).bind fun _ => follows_pure _
  · by_cases isCheck : endpoint = .deviceStatus
    · subst isCheck
      have acts := Client.actsFor_getDeviceStatus world owns
      rw [serve, KraDeviceController.getStatus, exec_bind_pure]
      exact acts
    · exact Client.actsFor_of_onlySends (serve_onlySends owns arrayOf request isSale isCheck)

/-- A request does nothing, or acts for one taxpayer for whom its client may act. -/
theorem leaves_cases (installation : Installation) (arrival : Arrival)
    (session : Session collate) :
    installation.leaves arrival session = session ∨
      ∃ client owner, installation.client arrival = some client ∧
        owner ∈ session.tenants.taxpayerPins ∧ MayActFor session.tenants client owner ∧
        ActsFor owner session (installation.leaves arrival session) := by
  cases isAction : installation.action arrival session with
  | none => exact .inl (leaves_of_noAction isAction)
  | some action =>
      rw [leaves_of_action isAction]
      obtain ⟨client, known, isAdmitted⟩ := Option.bind_eq_some_iff.mp isAction
      rcases admitted_cases isAdmitted with
        ⟨-, authorized, valid, rfl⟩ | ⟨endpoint, device, -, served, rfl⟩
      · rw [KraDeviceController.initializeKraDevice, exec_bind_ok (exec_get session),
          exec_bind_pure]
        cases accepted : KraDeviceService.readActivation session.tenants (.arr
            (KraDeviceController.initializeData session.tenants arrival.request.input)) with
        | error thrown =>
            rw [Client.exec_initializeDevice_of_unread accepted]
            exact .inl rfl
        | ok activation =>
            have linked := (linked_of_activation authorized valid accepted).1
            exact .inr ⟨client, activation.taxpayerPin, known, (List.mem_filter.mp linked).1,
              .inr linked, Client.actsFor_initializeDevice accepted⟩
      · obtain ⟨owner, owns, mayAct⟩ := owns_of_served served
        exact .inr ⟨client, owner, known, owns.isTaxpayer, mayAct, serve_actsFor owns _ _ _⟩

/-- No request changes the taxpayers, or who is linked to them. -/
theorem samePermissions_leaves (installation : Installation) (arrival : Arrival)
    (session : Session collate) :
    (installation.leaves arrival session).tenants.taxpayerPins = session.tenants.taxpayerPins ∧
      (installation.leaves arrival session).tenants.apiClientTaxpayerPin =
        session.tenants.apiClientTaxpayerPin := by
  rcases leaves_cases installation arrival session with nothing | ⟨_, _, -, -, -, acts⟩
  · rw [nothing]
    exact ⟨rfl, rfl⟩
  · exact ⟨acts.keepsOthers.sameTaxpayers, acts.keepsOthers.sameLinks⟩

end Actions

/-! ## Everybody else -/

section Others

variable {collate : String → String}

/-- Nothing is sent, stored, queued or changed of the taxpayer. -/
structure LeavesAlone (owner : TaxpayerPin) (session session' : Session collate) : Prop where
  sends : ∃ sent, session'.calls = session.calls ++ sent ∧
    ∀ call ∈ sent, Client.Command.pin call.command ≠ some owner.pin
  keepsDevices : ∀ device : KraDeviceRow, device.taxpayerPinId = owner.id →
    (device ∈ session'.tenants.kraDevices ↔ device ∈ session.tenants.kraDevices)
  records : ∃ added,
    session'.gateway.transactions.stored = session.gateway.transactions.stored ++ added ∧
      ∀ transaction ∈ added, transaction.taxpayerPinId ≠ owner.id
  queues : ∃ queued, session'.gateway.jobs = session.gateway.jobs ++ queued ∧
    ∀ id ∈ queued, ∃ transaction ∈ session'.gateway.transactions.stored,
      transaction.id = id ∧ transaction.taxpayerPinId ≠ owner.id
  sameTaxpayers : session'.tenants.taxpayerPins = session.tenants.taxpayerPins
  sameLinks : session'.tenants.apiClientTaxpayerPin = session.tenants.apiClientTaxpayerPin

instance (owner : TaxpayerPin) : IsPreorder (Session collate) (LeavesAlone owner) where
  refl session := ⟨⟨[], by simp, by simp⟩, fun _ _ => Iff.rfl, ⟨[], by simp, by simp⟩,
    ⟨[], by simp, by simp⟩, rfl, rfl⟩
  trans first second third := by
    rintro ⟨⟨sent, calls, others⟩, same, ⟨added, rows, notOwned⟩, ⟨queued, jobs, ofOthers⟩,
        taxpayers, links⟩
      ⟨⟨sent', calls', others'⟩, same', ⟨added', rows', notOwned'⟩, ⟨queued', jobs', ofOthers'⟩,
        taxpayers', links'⟩
    refine ⟨⟨sent ++ sent', ?_, ?_⟩, fun device isOwned => ?_, ⟨added ++ added', ?_, ?_⟩,
      ⟨queued ++ queued', ?_, ?_⟩, taxpayers'.trans taxpayers, links'.trans links⟩
    · rw [calls', calls, List.append_assoc]
    · intro call member
      rcases List.mem_append.mp member with isFirst | isSecond
      · exact others call isFirst
      · exact others' call isSecond
    · exact (same' device isOwned).trans (same device isOwned)
    · rw [rows', rows, List.append_assoc]
    · intro transaction member
      rcases List.mem_append.mp member with isFirst | isSecond
      · exact notOwned transaction isFirst
      · exact notOwned' transaction isSecond
    · rw [jobs', jobs, List.append_assoc]
    · intro id member
      rcases List.mem_append.mp member with isFirst | isSecond
      · obtain ⟨transaction, isStored, ofId, isOther⟩ := ofOthers id isFirst
        refine ⟨transaction, ?_, ofId, isOther⟩
        rw [rows']
        exact List.mem_append_left _ isStored
      · exact ofOthers' id isSecond

/-- Who acts for another taxpayer leaves this one alone. -/
theorem leavesAlone_of_actsFor {session session' : Session collate} {owner other : TaxpayerPin}
    (isOwner : owner ∈ session.tenants.taxpayerPins)
    (isOther : other ∈ session.tenants.taxpayerPins) (different : other ≠ owner)
    (acts : ActsFor other session session') : LeavesAlone owner session session' := by
  have otherId : other.id ≠ owner.id := fun same => different
    (List.inj_on_of_nodup_map session.tenants.uniqueTaxpayerId isOther isOwner same)
  have otherPin : other.pin ≠ owner.pin := fun same => different
    (List.inj_on_of_nodup_map session.tenants.uniquePin isOther isOwner same)
  obtain ⟨⟨sent, calls, under⟩, ⟨added, rows, owned⟩, ⟨queued, jobs, ofOther⟩, kept⟩ := acts
  refine ⟨⟨sent, calls, fun call member isOwn => ?_⟩, fun device isOwned => ⟨?_, ?_⟩,
    ⟨added, rows, fun transaction member isOwned => ?_⟩, ⟨queued, jobs, fun id member => ?_⟩,
    kept.sameTaxpayers, kept.sameLinks⟩
  · exact otherPin (Option.some.inj ((under call member).symm.trans isOwn))
  · intro isStored
    obtain ⟨news, identities, ofNews⟩ := kept.registers
    have isIdentity := List.mem_map_of_mem (f := identity) isStored
    rw [identities] at isIdentity
    rcases List.mem_append.mp isIdentity with isOld | isNew
    · obtain ⟨old, wasStored, same⟩ := List.mem_map.mp isOld
      obtain ⟨sameId, sameOwner, -⟩ : old.id = device.id ∧
          old.taxpayerPinId = device.taxpayerPinId ∧ old.kraScuId = device.kraScuId := by
        simpa [identity] using same
      have notOther : old.taxpayerPinId ≠ other.id := by
        rw [sameOwner, isOwned]
        exact otherId.symm
      have stays := kept.keepsRows old wasStored notOther
      rw [← List.inj_on_of_nodup_map session'.tenants.uniqueDeviceId stays isStored sameId]
      exact wasStored
    · have ofOther : device.taxpayerPinId = other.id := ofNews _ isNew
      exact absurd (ofOther.symm.trans isOwned) otherId
  · intro wasStored
    refine kept.keepsRows device wasStored ?_
    rw [isOwned]
    exact otherId.symm
  · exact otherId ((owned transaction member).symm.trans isOwned)
  · obtain ⟨transaction, isStored, ofId, isOwned⟩ := ofOther id member
    refine ⟨transaction, isStored, ofId, ?_⟩
    rw [isOwned]
    exact otherId

/-- Permissions are not changed by a request. -/
theorem mayActFor_iff_of_leavesAlone {session session' : Session collate} {owner : TaxpayerPin}
    (alone : LeavesAlone owner session session') (client : ApiClient) (other : TaxpayerPin) :
    MayActFor session'.tenants client other ↔ MayActFor session.tenants client other := by
  unfold MayActFor Tenants.linkedPins
  rw [alone.sameTaxpayers, alone.sameLinks]

theorem leavesAlone_leaves {installation : Installation} {arrival : Arrival}
    {session : Session collate} {owner : TaxpayerPin}
    (isOwner : owner ∈ session.tenants.taxpayerPins)
    (mayNot : ∀ client, installation.client arrival = some client →
      ¬ MayActFor session.tenants client owner) :
    LeavesAlone owner session (installation.leaves arrival session) := by
  rcases leaves_cases installation arrival session with nothing | acting
  · rw [nothing]
    exact Std.Refl.refl session
  · obtain ⟨client, other, known, isOther, mayAct, acts⟩ := acting
    have different : other ≠ owner := by
      rintro rfl
      exact mayNot client known mayAct
    exact leavesAlone_of_actsFor isOwner isOther different acts

/-- None of the requests comes from a client that may act for the taxpayer. -/
def NoneActsFor (installation : Installation) (database : Tenants) (owner : TaxpayerPin)
    (arrivals : List Arrival) : Prop :=
  ∀ arrival ∈ arrivals, ∀ client, installation.client arrival = some client →
    ¬ MayActFor database client owner

/-- However many requests arrive, and in whatever order: a taxpayer for whom none of their
clients may act has the same devices, receipts and queued jobs behind them, and nothing
was sent under its PIN. -/
theorem left_alone_of_run {installation : Installation} {server server' : Server collate}
    {arrivals : List Arrival} {owner : TaxpayerPin}
    (isOwner : owner ∈ server.session.tenants.taxpayerPins)
    (noneActs : NoneActsFor installation server.session.tenants owner arrivals)
    (ran : run (step installation) server arrivals = some server') :
    LeavesAlone owner server.session server'.session := by
  have history : NoneActsFor installation server.session.tenants owner arrivals →
      LeavesAlone owner server.session server'.session := by
    apply run_history _ _ ran
    · intro before source arrival target soFar stepped none'
      obtain rfl := Option.some.inj stepped
      have alone := soFar fun earlier isEarlier =>
        none' earlier (List.mem_append_left _ isEarlier)
      refine IsTrans.trans _ _ _ alone (leavesAlone_leaves ?_ fun client known mayAct => ?_)
      · rw [alone.sameTaxpayers]
        exact isOwner
      · exact none' arrival (by simp) client known
          ((mayActFor_iff_of_leavesAlone alone client owner).mp mayAct)
    · intro _
      exact Std.Refl.refl server.session
  exact history noneActs

end Others

/-! ### The other shop -/

/-- The first shop is the only client; its key is its own hash. -/
def shopInstallation : Installation where
  framework := Gateway.plainFramework
  debug := false
  statusTexts _ := none
  apiClients := [(clientOf "1" shopOwner.pin, "key-1")]
  hashCheck apiKey hash := apiKey = hash
  otherFailures _ _ := []
  debugAnswer _ _ := ⟨200, none⟩
  arrayOf _ := .null

/-- A request under the key of the first shop. -/
def shopArrival (world : World) (route : Route) (input : Entries) : Arrival :=
  ⟨⟨⟨"", input⟩, route, some "key-1", none⟩, "2025-07-03T13:08:19.000000Z",
    "7d444840-9dc0-11d1-b245-5ffdce74fad2", world⟩

/-- The shop activates its till and asks for a report, and then for one of the other shop. -/
def shopDay : List Arrival :=
  [shopArrival Devices.grantingWorld .initializeDevice Devices.tillActivation,
    shopArrival Client.offlineWorld (.endpoint .xDailyReport)
      (tillQuery shopTill shopOwner.pin).input,
    shopArrival Client.offlineWorld (.endpoint .xDailyReport)
      (tillQuery numberedTill numberedOwner.pin).input]

def shopDayRun : Option (Server id) :=
  run (step shopInstallation) ⟨Devices.shopSession, []⟩ shopDay

theorem shopDayRun_returns : shopDayRun.isSome = true := by
  rfl

/-- The theorem at that day: the other shop is left alone. -/
theorem left_alone_of_run_shopDay :
    LeavesAlone numberedOwner Devices.shopSession
      (shopDayRun.get shopDayRun_returns).session := by
  have isOwner : numberedOwner ∈ Devices.shopSession.tenants.taxpayerPins :=
    numberedTill_owned.isTaxpayer
  refine @left_alone_of_run _ shopInstallation ⟨Devices.shopSession, []⟩ _ shopDay _ isOwner ?_
    (Option.some_get shopDayRun_returns).symm
  intro arrival member client known
  have isShop : client = clientOf "1" shopOwner.pin := by
    simp only [shopDay, List.mem_cons, List.not_mem_nil, or_false] at member
    rcases member with rfl | rfl | rfl <;> exact (Option.some.inj known).symm
  rw [isShop]
  rintro (allowed | linked)
  · exact absurd allowed (by decide +kernel)
  · exact numberedTill_foreign.unlinked linked

end TaxGateway.Access
