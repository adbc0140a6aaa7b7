import TaxGateway.Exceptions.KraApiException
import TaxGateway.Http.Endpoints
import TaxGateway.Http.InitializeKraDeviceRequest

/-!
Contract: a request under `/api/v1`, from the middleware to its answer.

Owns:
- the API middleware, in the order `bootstrap/app.php` lists it;
- the routes, and how a request to each of them ends;
- the renderer of what is thrown: the exception's own where it has one, else the
  framework's. The application's `Handler` class is bound nowhere.

Does not own: what the services do (their outcome is a parameter), or the
framework's rendering (a parameter).
-/

namespace TaxGateway.Http

open TaxGateway.Php
open TaxGateway.Validation
open TaxGateway.Database
open TaxGateway.Services
open TaxGateway.Exceptions

/-! ## Requests -/

/-- The routes under `/api/v1`. `debug` stands for those that always answer. -/
inductive Route where
  | debug
  | testAuthPin
  | initializeDevice
  | endpoint (endpoint : Endpoint)
  | unmatched
deriving DecidableEq

/-- A request with the two headers the middleware reads. -/
structure ApiRequest extends Request where
  route : Route
  apiKey : Option String
  xTraceId : Option String

/-- `$request->attributes`. -/
structure Attributes where
  apiClient : Option ApiClient
  traceId : Option String

/-- Why a request does not get to its service: an exception of the framework. -/
inductive Refusal where
  | authorization (message : String)
  | validation (fields : List String)
  | modelNotFound
  | routeNotFound

/-- What reaches a renderer. -/
inductive Uncaught where
  | refused (refusal : Refusal)
  | thrown (thrown : Thrown)

/-- The framework's exception handler. -/
structure Framework where
  render : ApiRequest → Uncaught → ApiResponse

namespace Framework

/-- The keys of the framework's JSON errors: of a validation error, and of any
other throwable without and with the debug flag. -/
def documentedKeys : List Key :=
  ["message", "errors", "exception", "file", "line", "trace"].map Key.str

/-- The framework's JSON errors have no other keys. -/
def Documented (framework : Framework) : Prop :=
  ∀ request uncaught entries, (framework.render request uncaught).json = some (.arr entries) →
    ∀ entry ∈ entries, entry.1 ∈ documentedKeys

end Framework

/-- What a request is answered with. -/
structure Gateway where
  framework : Framework
  now : String
  debug : Bool
  statusTexts : Nat → Option String
  uuid : String
  database : Tenants
  /-- The clients with the hashes of their keys. -/
  apiClients : List (ApiClient × String)
  /-- `Hash::check`. -/
  hashCheck : String → String → Bool
  otherFailures : Endpoint → Entries → List Failure
  /-- A service called on a device, an after-hook that throws included. -/
  serve : Endpoint → KraDeviceRow → ApiRequest → Except Thrown ApiResponse
  initializeDevice : ApiRequest → Except Thrown ApiResponse
  debugAnswer : ApiRequest → Attributes → ApiResponse

/-- How a request ends. -/
inductive Exit where
  | answered (response : ApiResponse)
  | failed (response : ApiResponse)

namespace Gateway

variable (gateway : Gateway) (request : ApiRequest)

/-! ## Rendering -/

/-- An exception with a `render` method renders itself. -/
def renderUncaught (attributes : Attributes) : Uncaught → ApiResponse
  | .thrown (.kraApi exception) =>
      KraApiException.render
        ⟨gateway.now, gateway.debug, gateway.statusTexts, attributes.traceId⟩ exception
  | uncaught => gateway.framework.render request uncaught

/-- An error body the application makes itself. -/
def errorBody (status : Nat) (error message gatewayErrorCode traceKey : String)
    (attributes : Attributes) : ApiResponse :=
  ⟨status, some (.arr
    [(.str "timestamp", .str gateway.now), (.str "status", .num status),
      (.str "error", .str error), (.str "message", .str message),
      (.str "gatewayErrorCode", .str gatewayErrorCode),
      (.str traceKey, optionalText attributes.traceId)])⟩

/-! ## Middleware -/

/-- `ApiClient::findByApiKey`. -/
def findByApiKey (apiKey : String) : Option ApiClient :=
  ((gateway.apiClients.filter fun client => client.1.isActive).find? fun client =>
    gateway.hashCheck apiKey client.2).map Prod.fst

abbrev Next := Attributes → Exit

abbrev Middleware := Next → Next

def apiKeyAuthenticate : Middleware := fun next attributes =>
  match request.apiKey.filter fun apiKey => !(Value.str apiKey).isEmpty with
  | none =>
      .failed (gateway.errorBody 401 "Unauthorized" "API Key missing."
        "ICORE_AUTH_MISSING_API_KEY" "traceId" attributes)
  | some apiKey =>
      match gateway.findByApiKey apiKey with
      | none =>
          .failed (gateway.errorBody 401 "Unauthorized" "Invalid API Key."
            "ICORE_AUTH_INVALID_API_KEY" "traceId" attributes)
      | some client => next { attributes with apiClient := some client }

def attachTraceId : Middleware := fun next attributes =>
  next { attributes with traceId := some (request.xTraceId.getD gateway.uuid) }

/-- It writes to the log, and nothing it does leaves it. -/
def debugApiItemsRoute : Middleware := fun next attributes => next attributes

/-- `$middleware->api(prepend: […])`, then `api(append: […])`. -/
def apiMiddleware : List Middleware :=
  [gateway.apiKeyAuthenticate request, gateway.attachTraceId request, debugApiItemsRoute]

def through (middleware : List Middleware) (destination : Next) : Next :=
  middleware.foldr (fun each next => each next) destination

/-! ## Routes -/

/-- The service call a request gets to, with its outcome, or why it does not. -/
def called (client : ApiClient) : Except Refusal (Except Thrown ApiResponse) :=
  match request.route with
  | .initializeDevice =>
      if !InitializeKraDeviceRequest.authorize gateway.database (some client) request.input then
        .error (.authorization "This action is unauthorized.")
      else
        let failed := InitializeKraDeviceRequest.failedFields gateway.database request.input
        if failed ≠ [] then .error (.validation failed)
        else .ok (gateway.initializeDevice request)
  | .endpoint endpoint =>
      match reply gateway.otherFailures gateway.database client endpoint
        request.toRequest with
      | .forbidden message => .error (.authorization message)
      | .unprocessable failures => .error (.validation (failures.map Prod.fst))
      | .notFound => .error .modelNotFound
      | .served device => .ok (gateway.serve endpoint device request)
  | .debug | .testAuthPin | .unmatched => .error .routeNotFound

/-- A controller's answer, or the answer to what it lets out. -/
def finish (attributes : Attributes) : Except Refusal (Except Thrown ApiResponse) → Exit
  | .error refusal => .failed (gateway.renderUncaught request attributes (.refused refusal))
  | .ok (.error thrown) => .failed (gateway.renderUncaught request attributes (.thrown thrown))
  | .ok (.ok response) => .answered response

/-- `GET /test-auth-pin`. Its error body spells the trace id `trace_id`. -/
def testAuthPin (client : ApiClient) (attributes : Attributes) : Exit :=
  if !inArray (request.value "taxpayer_pin") (allowedPins client) then
    .failed (gateway.errorBody 403 "Forbidden"
      "API Key is not authorized for this taxpayer PIN." "ICORE_AUTH_PIN_NOT_ALLOWED"
      "trace_id" attributes)
  else .answered (gateway.debugAnswer request attributes)

/-- What a route does once the middleware has let the request through. -/
def destination (attributes : Attributes) : Exit :=
  match request.route, attributes.apiClient with
  | .debug, _ => .answered (gateway.debugAnswer request attributes)
  | .testAuthPin, some client => gateway.testAuthPin request client attributes
  | .initializeDevice, some client | .endpoint _, some client =>
      gateway.finish request attributes (gateway.called request client)
  | .unmatched, _ =>
      .failed (gateway.renderUncaught request attributes (.refused .routeNotFound))
  | _, none =>
      .failed (gateway.renderUncaught request attributes
        (.thrown (.php (.error "Attempt to read property on null"))))

/-- A request that matches no route does not get to the route middleware. -/
def handle : Exit :=
  match request.route with
  | .unmatched =>
      .failed (gateway.renderUncaught request ⟨none, none⟩ (.refused .routeNotFound))
  | _ => through (gateway.apiMiddleware request) (gateway.destination request) ⟨none, none⟩

end Gateway

end TaxGateway.Http
