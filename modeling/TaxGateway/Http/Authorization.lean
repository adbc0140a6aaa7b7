import TaxGateway.Database.Tenants
import TaxGateway.Foundations.LooseEquality
import TaxGateway.Foundations.Validation

/-!
Contract: who a request is admitted for, before anything else of it is looked
at.

Owns:
- what a database query binds for a value of the input;
- the four `authorize()` methods, each with the device it attaches;
- the device lookup of the query endpoints.

Does not own: the rules checked afterwards, or what the services do.
-/

namespace TaxGateway.Http

open TaxGateway.Php
open TaxGateway.Validation
open TaxGateway.Database

/-! ## Bindings -/

/-- What a query binds for a value of the input. The middleware has cleaned the texts in
an array, too. -/
def boundText : Value → Option String
  | .arr entries => bindingText (clean ((firstScalarOf entries).getD (.bool false)))
  | value => bindingText value

@[simp] theorem boundText_str (text : String) : boundText (.str text) = some text := rfl

/-! ## Clients -/

/-- `explode(',', $apiClient->allowed_taxpayer_pins)`; `null` counts as the empty
text, whose only part is empty. -/
def allowedPins (apiClient : ApiClient) : List String :=
  explode ',' (apiClient.allowedTaxpayerPins.getD "")

/-- `!$apiClient || !$apiClient->is_active`, negated. -/
def activeClient (apiClient : Option ApiClient) : Option ApiClient :=
  apiClient.filter ApiClient.isActive

/-- What `authorize()` does: it throws, returns `false` (`none`), or returns
`true` with the device it attaches to the request. -/
abbrev Authorization := Except Throwable (Option KraDeviceRow)

section Authorize

variable (database : Tenants) (apiClient : Option ApiClient)
  (gatewayDeviceId taxpayerPin : Value)

/-- The device of the id whose taxpayer has the PIN. -/
def deviceOfPin : Option KraDeviceRow :=
  database.findDevice (boundText gatewayDeviceId) fun _ taxpayer =>
    boundText taxpayerPin = some taxpayer.pin

/-- The same, its taxpayer linked to the client. In the subquery
`taxpayer_pin_id` is the column of the device. -/
def linkedDeviceOfPin (client : ApiClient) : Option KraDeviceRow :=
  database.findDevice (boundText gatewayDeviceId) fun device taxpayer =>
    boundText taxpayerPin = some taxpayer.pin &&
      ((database.linkedPins client).map TaxpayerPin.id).contains device.taxpayerPinId

/-- `$apiClient->taxpayerPins()->where('pin', $taxpayerPin)->exists()`. -/
def isPinAllowedForClient (client : ApiClient) : Bool :=
  (database.linkedPins client).any fun taxpayer => boundText taxpayerPin = some taxpayer.pin

def ProcessTransactionRequest.authorize : Authorization :=
  match activeClient apiClient with
  | none => .ok none
  | some client =>
      let kraDevice := deviceOfPin database gatewayDeviceId taxpayerPin
      if !inArray taxpayerPin (allowedPins client) then .ok none
      else
        match kraDevice with
        | none => .ok none
        | some device =>
            if device.status ≠ .ACTIVATED then
              .error (.exception "KRA Device is not active or initialized.")
            else .ok (some device)

def RegisterKraItemRequest.authorize : Authorization :=
  match activeClient apiClient with
  | none => .ok none
  | some client =>
      let kraDevice := linkedDeviceOfPin database gatewayDeviceId taxpayerPin client
      let isPinAllowed := isPinAllowedForClient database taxpayerPin client
      if kraDevice.isNone || !isPinAllowed then .ok none else .ok kraDevice

def SendKraPurchaseRequest.authorize : Authorization :=
  match activeClient apiClient with
  | none => .ok none
  | some client =>
      match linkedDeviceOfPin database gatewayDeviceId taxpayerPin client with
      | none => .ok none
      | some device =>
          if !isPinAllowedForClient database taxpayerPin client then .ok none
          else .ok (some device)

def SendKraInventoryMovementRequest.authorize : Authorization :=
  match activeClient apiClient with
  | none => .ok none
  | some client =>
      let kraDevice := linkedDeviceOfPin database gatewayDeviceId taxpayerPin client
      if !inArray taxpayerPin (allowedPins client) then .ok none
      else .ok kraDevice

/-- The device lookup of the device status and of the queries for items,
purchases and reports: by its id, its taxpayer among the client's PINs. -/
def allowedDevice (client : ApiClient) : Option KraDeviceRow :=
  database.findDevice (boundText gatewayDeviceId) fun _ taxpayer =>
    (allowedPins client).contains taxpayer.pin

end Authorize

/-! ## What each of them decides -/

section Decisions

variable {database : Tenants} {client : ApiClient} {owner : TaxpayerPin}
  {device : KraDeviceRow} {gatewayDeviceId : Value}

theorem activeClient_of_active (active : client.isActive = true) :
    activeClient (some client) = some client := by
  simp [activeClient, active]

/-- The ids of a client's taxpayers tell the taxpayers apart. -/
theorem contains_linkedIds (owns : database.Owns owner device) :
    ((database.linkedPins client).map TaxpayerPin.id).contains device.taxpayerPinId =
      (owner ∈ database.linkedPins client : Bool) := by
  rw [Bool.eq_iff_iff, List.contains_iff_mem, decide_eq_true_eq, owns.belongs]
  constructor
  · intro member
    obtain ⟨other, isLinked, same⟩ := List.mem_map.mp member
    have isTaxpayer : other ∈ database.taxpayerPins := (List.mem_filter.mp isLinked).1
    rwa [← List.inj_on_of_nodup_map database.uniqueTaxpayerId isTaxpayer owns.isTaxpayer same]
  · exact List.mem_map_of_mem

theorem deviceOfPin_of_owns (owns : database.Owns owner device)
    (named : boundText gatewayDeviceId = some device.id) (taxpayerPin : Value) :
    deviceOfPin database gatewayDeviceId taxpayerPin =
      if boundText taxpayerPin = some owner.pin then some device else none := by
  rw [deviceOfPin, named, Tenants.findDevice_of_owns owns]
  simp only [decide_eq_true_eq]

theorem linkedDeviceOfPin_of_owns (owns : database.Owns owner device)
    (named : boundText gatewayDeviceId = some device.id) (taxpayerPin : Value) :
    linkedDeviceOfPin database gatewayDeviceId taxpayerPin client =
      if boundText taxpayerPin = some owner.pin ∧ owner ∈ database.linkedPins client then
        some device
      else none := by
  rw [linkedDeviceOfPin, named, Tenants.findDevice_of_owns owns, contains_linkedIds owns]
  simp only [Bool.and_eq_true, decide_eq_true_eq]

theorem allowedDevice_of_owns (owns : database.Owns owner device)
    (named : boundText gatewayDeviceId = some device.id) :
    allowedDevice database gatewayDeviceId client =
      if owner.pin ∈ allowedPins client then some device else none := by
  rw [allowedDevice, named, Tenants.findDevice_of_owns owns]
  simp only [List.contains_iff_mem]

/-- A sale: the PIN is that of the device, it is loosely one of the client's, and
the device is activated. -/
theorem ProcessTransactionRequest.authorize_of_owns (active : client.isActive = true)
    (owns : database.Owns owner device)
    (named : boundText gatewayDeviceId = some device.id) (taxpayerPin : Value) :
    ProcessTransactionRequest.authorize database (some client) gatewayDeviceId taxpayerPin =
      if inArray taxpayerPin (allowedPins client) = true ∧
          boundText taxpayerPin = some owner.pin then
        if device.status = .ACTIVATED then .ok (some device)
        else .error (.exception "KRA Device is not active or initialized.")
      else .ok none := by
  rw [ProcessTransactionRequest.authorize, activeClient_of_active active]
  simp only [deviceOfPin_of_owns owns named]
  by_cases loosely : inArray taxpayerPin (allowedPins client) = true <;>
    by_cases ofDevice : boundText taxpayerPin = some owner.pin <;>
    by_cases activated : device.status = .ACTIVATED <;>
    simp [loosely, ofDevice, activated]

/-- What a sale is admitted for is an active client and the device it names. -/
theorem ProcessTransactionRequest.of_authorize_eq_some {taxpayerPin : Value}
    (authorized : ProcessTransactionRequest.authorize database (some client) gatewayDeviceId
      taxpayerPin = .ok (some device)) :
    client.isActive = true ∧ boundText gatewayDeviceId = some device.id := by
  unfold ProcessTransactionRequest.authorize at authorized
  split at authorized
  next => simp at authorized
  next other isActive =>
    obtain ⟨-, active⟩ := Option.filter_eq_some_iff.mp isActive
    obtain rfl : client = other := by simpa using (Option.filter_eq_some_iff.mp isActive).1
    refine ⟨active, ?_⟩
    dsimp only at authorized
    split at authorized
    next => simp at authorized
    next =>
      split at authorized
      next => simp at authorized
      next found isFound =>
        split at authorized
        next => contradiction
        next =>
          obtain rfl := Option.some.inj (Except.ok.inj authorized)
          exact (Tenants.findDevice_eq_some isFound).1

/-- An item: the PIN is that of the device, and the client is linked to it. -/
theorem RegisterKraItemRequest.authorize_of_owns (active : client.isActive = true)
    (owns : database.Owns owner device)
    (named : boundText gatewayDeviceId = some device.id) (taxpayerPin : Value) :
    RegisterKraItemRequest.authorize database (some client) gatewayDeviceId taxpayerPin =
      if boundText taxpayerPin = some owner.pin ∧ owner ∈ database.linkedPins client then
        .ok (some device)
      else .ok none := by
  rw [RegisterKraItemRequest.authorize, activeClient_of_active active]
  simp only [linkedDeviceOfPin_of_owns owns named]
  by_cases both : boundText taxpayerPin = some owner.pin ∧
      owner ∈ database.linkedPins client
  · have isAllowed : isPinAllowedForClient database taxpayerPin client = true :=
      List.any_eq_true.mpr ⟨owner, both.2, by simp [both.1]⟩
    rw [if_pos both, if_pos both]
    simp [isAllowed]
  · rw [if_neg both, if_neg both]
    rfl

/-- Purchases are decided like items. -/
theorem SendKraPurchaseRequest.authorize_eq (apiClient : Option ApiClient)
    (taxpayerPin : Value) :
    SendKraPurchaseRequest.authorize database apiClient gatewayDeviceId taxpayerPin =
      RegisterKraItemRequest.authorize database apiClient gatewayDeviceId taxpayerPin := by
  unfold SendKraPurchaseRequest.authorize RegisterKraItemRequest.authorize
  cases activeClient apiClient with
  | none => rfl
  | some client =>
      cases found : linkedDeviceOfPin database gatewayDeviceId taxpayerPin client with
      | none => simp [found]
      | some device =>
          cases isAllowed : isPinAllowedForClient database taxpayerPin client <;>
            simp [found]

/-- A movement: as for an item, and loosely one of the client's PINs. -/
theorem SendKraInventoryMovementRequest.authorize_of_owns (active : client.isActive = true)
    (owns : database.Owns owner device)
    (named : boundText gatewayDeviceId = some device.id) (taxpayerPin : Value) :
    SendKraInventoryMovementRequest.authorize database (some client) gatewayDeviceId
        taxpayerPin =
      if inArray taxpayerPin (allowedPins client) = true ∧
          boundText taxpayerPin = some owner.pin ∧ owner ∈ database.linkedPins client then
        .ok (some device)
      else .ok none := by
  rw [SendKraInventoryMovementRequest.authorize, activeClient_of_active active]
  simp only [linkedDeviceOfPin_of_owns owns named]
  by_cases loosely : inArray taxpayerPin (allowedPins client) = true <;>
    by_cases both : boundText taxpayerPin = some owner.pin ∧
      owner ∈ database.linkedPins client <;>
    simp [loosely, both]

end Decisions

end TaxGateway.Http
