import TaxGateway.Http.Authorization
import TaxGateway.Http.ProcessTransactionRequest

/-!
Contract: how the endpoints that take a `gatewayDeviceId` answer before a
service is called.

Owns:
- the checks of `gatewayDeviceId` and `taxpayerPin`, in the framework's order,
  with the failures they report;
- the reply of each endpoint: refused, rejected, not found, or served on a
  device;
- the order in which an endpoint authorizes, validates and looks up.

Does not own: the checks of the other fields (a function of the input), or what
a service answers.
-/

namespace TaxGateway.Http

open TaxGateway.Php
open TaxGateway.Validation
open TaxGateway.Database

/-! ## Failed checks -/

/-- A field and the rule it failed. -/
abbrev Failure := String × String

/-- A value the `required` rule refuses. -/
def isMissing (value : Option Value) : Bool := !passes [.required] value

/-- `['required', 'uuid', Rule::exists('kra_devices', 'id')]`. A missing value
is asked nothing else, and `exists` only of a value that passed so far. -/
def idFailures (database : Tenants) (value : Option Value) : List String :=
  if isMissing value then ["Required"]
  else
    match value with
    | some (.str text) =>
        if !ProcessTransactionRequest.isUuid text then ["Uuid"]
        else if database.kraDevices.any fun device => device.id = text then []
        else ["Exists"]
    | _ => ["Uuid"]

/-- What `max` measures of a field that is not numeric. -/
def lengthOf : Value → Nat
  | .arr entries => entries.length
  | .str text => text.length
  | .num number => (numberText number).length
  | .bool flag => if flag then 1 else 0
  | .null => 0

/-- `['required', 'string', 'max:20', Rule::exists('taxpayer_pins', 'pin')]`. -/
def pinFailures (database : Tenants) (value : Option Value) : List String :=
  if isMissing value then ["Required"]
  else
    match value with
    | some (.str text) =>
        if 20 < text.length then ["Max"]
        else if database.taxpayerPins.any fun taxpayer => taxpayer.pin = text then []
        else ["Exists"]
    | _ => "String" :: if 20 < lengthOf (value.getD .null) then ["Max"] else []

/-- The failures of the two fields every endpoint checks. -/
def tenantFailures (database : Tenants) (input : Entries) : List Failure :=
  (idFailures database (read input "gatewayDeviceId")).map (("gatewayDeviceId", ·)) ++
    (pinFailures database (read input "taxpayerPin")).map (("taxpayerPin", ·))

/-! ## Replies -/

/-- A reply up to the call of a service. -/
inductive Reply where
  /-- 403, with its message. -/
  | forbidden (message : String)
  /-- 422, with its failures. -/
  | unprocessable (failures : List Failure)
  /-- 404, from `firstOrFail()`. -/
  | notFound
  /-- The service is called on the device. -/
  | served (device : KraDeviceRow)

/-- The endpoints that take a `gatewayDeviceId`. -/
inductive Endpoint where
  | deviceStatus
  | registerItem
  | getItems
  | sendPurchase
  | getPurchases
  | sendMovement
  | processTransaction
  | xDailyReport
  | zDailyReport
  | pluReport
deriving DecidableEq, Repr

/-- The endpoints that validate inside the controller and look the device up
among those of the client's PINs. -/
def Endpoint.isQuery : Endpoint → Bool
  | .getItems | .getPurchases | .xDailyReport | .zDailyReport | .pluReport => true
  | .deviceStatus | .registerItem | .sendPurchase | .sendMovement | .processTransaction =>
      false

/-- A request: its decoded input, and the id in its path (device status only). -/
structure Request where
  path : String
  input : Entries

/-- `$request->input(name)`. -/
def Request.value (request : Request) (name : String) : Value :=
  (read request.input name).getD .null

/-- The device id a request names. -/
def namedDevice (endpoint : Endpoint) (request : Request) : Option String :=
  match endpoint with
  | .deviceStatus => some request.path
  | _ => boundText (request.value "gatewayDeviceId")

section Replies

-- What the rules on an endpoint's other fields report: the dates of a PLU
-- report, the body of a form request. They read the input only.
variable (otherFailures : Endpoint → Entries → List Failure)

/-- The failures of a query's other fields. Only the PLU report has some. -/
def otherQueryFailures (endpoint : Endpoint) (input : Entries) : List Failure :=
  match endpoint with
  | .pluReport => otherFailures endpoint input
  | _ => []

/-- `$request->validate([…])` of a query. -/
def queryFailures (database : Tenants) (endpoint : Endpoint) (input : Entries) :
    List Failure :=
  tenantFailures database input ++ otherQueryFailures otherFailures endpoint input

/-- A query validates first, and then looks the device up. -/
def queryReply (database : Tenants) (client : ApiClient) (endpoint : Endpoint)
    (request : Request) : Reply :=
  let failures := queryFailures otherFailures database endpoint request.input
  if failures ≠ [] then .unprocessable failures
  else
    match allowedDevice database (request.value "gatewayDeviceId") client with
    | some device => .served device
    | none => .notFound

/-- A form request authorizes first, and then validates. -/
def formReply (database : Tenants) (authorization : Authorization) (endpoint : Endpoint)
    (request : Request) : Reply :=
  match authorization with
  | .error thrown => .forbidden thrown.message
  | .ok none => .forbidden "This action is unauthorized."
  | .ok (some device) =>
      let failures := tenantFailures database request.input ++
        otherFailures endpoint request.input
      if failures ≠ [] then .unprocessable failures else .served device

/-- The reply of an endpoint to an authenticated client. -/
def reply (database : Tenants) (client : ApiClient) (endpoint : Endpoint)
    (request : Request) : Reply :=
  let gatewayDeviceId := request.value "gatewayDeviceId"
  let taxpayerPin := request.value "taxpayerPin"
  match endpoint with
  | .deviceStatus =>
      match allowedDevice database (.str request.path) client with
      | some device => .served device
      | none => .notFound
  | .registerItem =>
      formReply otherFailures database
        (RegisterKraItemRequest.authorize database (some client) gatewayDeviceId taxpayerPin)
        endpoint request
  | .sendPurchase =>
      formReply otherFailures database
        (SendKraPurchaseRequest.authorize database (some client) gatewayDeviceId taxpayerPin)
        endpoint request
  | .sendMovement =>
      formReply otherFailures database
        (SendKraInventoryMovementRequest.authorize database (some client) gatewayDeviceId
          taxpayerPin)
        endpoint request
  | .processTransaction =>
      formReply otherFailures database
        (ProcessTransactionRequest.authorize database (some client) gatewayDeviceId
          taxpayerPin)
        endpoint request
  | .getItems | .getPurchases | .xDailyReport | .zDailyReport | .pluReport =>
      queryReply otherFailures database client endpoint request

theorem reply_of_isQuery {endpoint : Endpoint} (isQuery : endpoint.isQuery = true)
    (database : Tenants) (client : ApiClient) (request : Request) :
    reply otherFailures database client endpoint request =
      queryReply otherFailures database client endpoint request := by
  cases endpoint with
  | getItems | getPurchases | xDailyReport | zDailyReport | pluReport => rfl
  | deviceStatus | registerItem | sendPurchase | sendMovement | processTransaction =>
      contradiction

/-- A query that is served passed its checks, and acts on a device whose
taxpayer is among the client's. -/
theorem queryReply_eq_served_iff {database : Tenants} {client : ApiClient}
    {endpoint : Endpoint} {request : Request} {device : KraDeviceRow} :
    queryReply otherFailures database client endpoint request = .served device ↔
      queryFailures otherFailures database endpoint request.input = [] ∧
        allowedDevice database (request.value "gatewayDeviceId") client = some device := by
  unfold queryReply
  by_cases valid : queryFailures otherFailures database endpoint request.input = []
  · simp only [valid, ne_eq, not_true, if_false, true_and]
    cases allowedDevice database (request.value "gatewayDeviceId") client <;> simp
  · simp [valid]

end Replies

end TaxGateway.Http
