import TaxGateway.Http.Pipeline

/-!
Contract: the JSON body of a request that ends in an error.

Owns:
- the documented envelope;
- the ways a request can end in an error, each with what renders it;
- the requests whose error has the envelope: those that end in a
  `KraApiException`.

Does not own: answers that are no errors.
-/

namespace TaxGateway.Http

open TaxGateway.Php
open TaxGateway.Database
open TaxGateway.Services
open TaxGateway.Exceptions

/-! ## The envelope -/

/-- The fields every error has. -/
def envelopeFields : List String :=
  ["timestamp", "status", "error", "message", "gatewayErrorCode", "traceId"]

/-- A JSON body with all the fields, the HTTP status and a trace id, which is the
one the request came with if it came with one. -/
def Enveloped (request : ApiRequest) (response : ApiResponse) : Prop :=
  ∃ entries, response.json = some (.arr entries) ∧
    (∀ field ∈ envelopeFields, ((Value.arr entries).index field).isSome = true) ∧
    (Value.arr entries).index "status" = some (.num response.statusCode) ∧
    ∃ traceId, (Value.arr entries).index "traceId" = some (.str traceId) ∧
      ∀ header, request.xTraceId = some header → traceId = header

namespace Gateway

variable (gateway : Gateway) (request : ApiRequest)

/-- The client the API key belongs to. -/
def authenticated : Option ApiClient :=
  (request.apiKey.filter fun apiKey => !(Value.str apiKey).isEmpty).bind gateway.findByApiKey

/-- The attributes of a request that passed the middleware. -/
def passed (client : ApiClient) : Attributes :=
  ⟨some client, some (request.xTraceId.getD gateway.uuid)⟩

/-- The client is known, the request gets to its service, and the service ends
with a `KraApiException`. -/
def FailsInKra : Prop :=
  ∃ client exception, gateway.authenticated request = some client ∧
    gateway.called request client = .ok (.error (.kraApi exception))

/-! ## The ways to fail -/

variable {gateway request}

/-- The middleware, run in its order: the key is looked at before there is a
trace id. -/
theorem handle_of_matched (matched : request.route ≠ .unmatched) :
    gateway.handle request =
      gateway.apiKeyAuthenticate request
        (fun attributes => gateway.destination request
          { attributes with traceId := some (request.xTraceId.getD gateway.uuid) })
        ⟨none, none⟩ := by
  unfold handle
  split
  next unmatched => exact absurd unmatched matched
  next => rfl

theorem handle_of_authenticated {client : ApiClient} (matched : request.route ≠ .unmatched)
    (known : gateway.authenticated request = some client) :
    gateway.handle request = gateway.destination request (gateway.passed request client) := by
  obtain ⟨apiKey, present, found⟩ := Option.bind_eq_some_iff.mp known
  rw [handle_of_matched matched, apiKeyAuthenticate]
  simp only [present, found]
  rfl

theorem handle_of_unknown (matched : request.route ≠ .unmatched)
    (unknown : gateway.authenticated request = none) :
    ∃ message code, gateway.handle request =
      .failed (gateway.errorBody 401 "Unauthorized" message code "traceId" ⟨none, none⟩) := by
  rw [handle_of_matched matched, apiKeyAuthenticate]
  cases present : request.apiKey.filter fun apiKey => !(Value.str apiKey).isEmpty with
  | none => exact ⟨_, _, rfl⟩
  | some apiKey =>
      rw [authenticated, present, Option.bind_some] at unknown
      simp only [unknown]
      exact ⟨_, _, rfl⟩

/-- What a controller lets out is rendered by the framework, a `KraApiException`
apart. -/
theorem finish_cases {attributes : Attributes} {client : ApiClient} {response : ApiResponse}
    (failed : gateway.finish request attributes (gateway.called request client) =
      .failed response) :
    (∃ uncaught, response = gateway.framework.render request uncaught) ∨
      ∃ exception, gateway.called request client = .ok (.error (.kraApi exception)) := by
  cases outcome : gateway.called request client with
  | error refusal =>
      rw [outcome] at failed
      exact .inl ⟨.refused refusal, (Exit.failed.inj failed).symm⟩
  | ok result =>
      rw [outcome] at failed
      cases result with
      | ok answer => contradiction
      | error thrown =>
          cases thrown with
          | kraApi exception => exact .inr ⟨exception, rfl⟩
          | php throwable =>
              exact .inl ⟨.thrown (.php throwable), (Exit.failed.inj failed).symm⟩

/-- How a request fails once its client is known. -/
theorem destination_cases {client : ApiClient} {response : ApiResponse}
    (matched : request.route ≠ .unmatched)
    (failed : gateway.destination request (gateway.passed request client) =
      .failed response) :
    (∃ message code, response = gateway.errorBody 403 "Forbidden" message code "trace_id"
        (gateway.passed request client)) ∨
      (∃ uncaught, response = gateway.framework.render request uncaught) ∨
      ∃ exception, gateway.called request client = .ok (.error (.kraApi exception)) := by
  cases route : request.route with
  | unmatched => exact absurd route matched
  | debug => simp [destination, route] at failed
  | testAuthPin =>
      simp only [destination, route, passed, testAuthPin] at failed
      split at failed
      next =>
        obtain rfl := Exit.failed.inj failed
        exact .inl ⟨_, _, rfl⟩
      next => contradiction
  | initializeDevice | endpoint _ =>
      simp only [destination, route, passed] at failed
      exact .inr (finish_cases failed)

/-- The answer to a request that ends in a `KraApiException`. -/
theorem handle_of_failsInKra {client : ApiClient} {exception : KraApiException}
    (known : gateway.authenticated request = some client)
    (threw : gateway.called request client = .ok (.error (.kraApi exception))) :
    gateway.handle request = .failed (KraApiException.render
      ⟨gateway.now, gateway.debug, gateway.statusTexts,
        some (request.xTraceId.getD gateway.uuid)⟩ exception) := by
  cases route : request.route with
  | debug | testAuthPin | unmatched =>
      simp only [called, route] at threw
      contradiction
  | initializeDevice | endpoint _ =>
      have matched : request.route ≠ .unmatched := by simp [route]
      rw [handle_of_authenticated matched known]
      simp only [destination, route, passed, threw]
      rfl

/-! ## Which of them have the envelope -/

theorem enveloped_render (context : RenderContext) (exception : KraApiException)
    {traceId : String} (attached : context.traceId = some traceId)
    (same : ∀ header, request.xTraceId = some header → traceId = header) :
    Enveloped request (KraApiException.render context exception) := by
  refine ⟨_, rfl, ?_, rfl, traceId, ?_, same⟩
  · intro field isField
    simp only [envelopeFields, List.mem_cons, List.not_mem_nil, or_false] at isField
    rcases isField with rfl | rfl | rfl | rfl | rfl | rfl <;> rfl
  · show some (optionalText context.traceId) = _
    rw [attached]
    rfl

/-- The framework's errors have no `gatewayErrorCode`. -/
theorem not_enveloped_framework (documented : gateway.framework.Documented)
    (uncaught : Uncaught) :
    ¬ Enveloped request (gateway.framework.render request uncaught) := by
  intro enveloped
  obtain ⟨entries, isJson, fields, -⟩ := enveloped
  have present := fields "gatewayErrorCode" (by simp [envelopeFields])
  obtain ⟨value, found⟩ := Option.isSome_iff_exists.mp present
  have key := documented request uncaught entries isJson _ (mem_of_lookup_eq_some found)
  simp [Framework.documentedKeys] at key

/-- The middleware looks at the key before there is a trace id. -/
theorem not_enveloped_unauthorized (message code : String) :
    ¬ Enveloped request
      (gateway.errorBody 401 "Unauthorized" message code "traceId" ⟨none, none⟩) := by
  intro enveloped
  obtain ⟨entries, isJson, -, -, traceId, found, -⟩ := enveloped
  obtain rfl := Value.arr.inj (Option.some.inj isJson)
  have null : some Value.null = some (.str traceId) := found
  simp at null

/-- The route spells the trace id `trace_id`. -/
theorem not_enveloped_forbidden (message code : String) (attributes : Attributes) :
    ¬ Enveloped request
      (gateway.errorBody 403 "Forbidden" message code "trace_id" attributes) := by
  intro enveloped
  obtain ⟨entries, isJson, -, -, traceId, found, -⟩ := enveloped
  obtain rfl := Value.arr.inj (Option.some.inj isJson)
  have missing : none = some (Value.str traceId) := found
  contradiction

/-- A request that ends in an error has the envelope exactly when its service
ends with a `KraApiException`. -/
theorem error_enveloped_iff (documented : gateway.framework.Documented)
    {response : ApiResponse} (failed : gateway.handle request = .failed response) :
    Enveloped request response ↔ gateway.FailsInKra request := by
  constructor
  · intro enveloped
    by_cases unmatched : request.route = .unmatched
    · simp only [handle, unmatched] at failed
      obtain rfl := Exit.failed.inj failed
      exact absurd enveloped (not_enveloped_framework documented _)
    · cases known : gateway.authenticated request with
      | none =>
          obtain ⟨message, code, unauthorized⟩ := handle_of_unknown unmatched known
          obtain rfl := Exit.failed.inj (unauthorized.symm.trans failed)
          exact absurd enveloped (not_enveloped_unauthorized message code)
      | some client =>
          rw [handle_of_authenticated unmatched known] at failed
          rcases destination_cases unmatched failed with
            ⟨message, code, rfl⟩ | ⟨uncaught, rfl⟩ | ⟨exception, threw⟩
          · exact absurd enveloped (not_enveloped_forbidden message code _)
          · exact absurd enveloped (not_enveloped_framework documented uncaught)
          · exact ⟨client, exception, known, threw⟩
  · intro fails
    obtain ⟨client, exception, known, threw⟩ := fails
    obtain rfl := Exit.failed.inj ((handle_of_failsInKra known threw).symm.trans failed)
    refine enveloped_render _ exception rfl ?_
    intro header sent
    rw [sent, Option.getD_some]

/-! ## A request without a key -/

/-- The framework's bodies without the debug flag. -/
def plainFramework : Framework where
  render _ uncaught :=
    let body (message : String) : Entries := [(.str "message", .str message)]
    match uncaught with
    | .refused (.authorization message) => ⟨403, some (.arr (body message))⟩
    | .refused (.validation fields) =>
        ⟨422, some (.arr (body "The given data was invalid." ++
          [(.str "errors", .arr (fields.map fun field => (.str field, .arr [])))]))⟩
    | .refused .modelNotFound => ⟨404, some (.arr (body "No query results for model."))⟩
    | .refused .routeNotFound => ⟨404, some (.arr (body "The route could not be found."))⟩
    | .thrown _ => ⟨500, some (.arr (body "Server Error"))⟩

theorem plainFramework_documented : plainFramework.Documented := by
  intro request uncaught entries isJson entry member
  have keys : (entries.map Prod.fst).all (Framework.documentedKeys.contains ·) = true := by
    cases uncaught with
    | refused refusal =>
        cases refusal <;>
          (obtain rfl := Value.arr.inj (Option.some.inj isJson); rfl)
    | thrown thrown =>
        obtain rfl := Value.arr.inj (Option.some.inj isJson)
        rfl
  simpa using List.all_eq_true.mp keys entry.1 (List.mem_map_of_mem member)

/-- A gateway without clients. -/
def emptyGateway : Gateway where
  framework := plainFramework
  now := "2025-07-03T13:08:19.000000Z"
  debug := false
  statusTexts _ := none
  uuid := "7d444840-9dc0-11d1-b245-5ffdce74fad2"
  database := ⟨[], [], [], .nil, .nil, .nil, .nil, List.forall_mem_nil _⟩
  apiClients := []
  hashCheck _ _ := false
  otherFailures _ _ := []
  serve _ _ _ := .error (.php (.error "Not called"))
  initializeDevice _ := .error (.php (.error "Not called"))
  debugAnswer _ _ := ⟨200, none⟩

/-- A report is asked for without a key, under a trace id. -/
def keylessRequest : ApiRequest where
  path := ""
  input := []
  route := .endpoint .xDailyReport
  apiKey := none
  xTraceId := some "trace-1"

def keylessAnswer : ApiResponse :=
  emptyGateway.errorBody 401 "Unauthorized" "API Key missing." "ICORE_AUTH_MISSING_API_KEY"
    "traceId" ⟨none, none⟩

theorem error_enveloped_iff_keyless :
    emptyGateway.framework.Documented ∧
      emptyGateway.handle keylessRequest = .failed keylessAnswer ∧
      (Enveloped keylessRequest keylessAnswer ↔ emptyGateway.FailsInKra keylessRequest) :=
  have failed : emptyGateway.handle keylessRequest = .failed keylessAnswer := rfl
  ⟨plainFramework_documented, failed, error_enveloped_iff plainFramework_documented failed⟩

/-- The answer has a `null` for its trace id. -/
theorem keyless_not_enveloped :
    emptyGateway.handle keylessRequest = .failed keylessAnswer ∧
      ¬ Enveloped keylessRequest keylessAnswer :=
  ⟨rfl, not_enveloped_unauthorized "API Key missing." "ICORE_AUTH_MISSING_API_KEY"⟩

end Gateway

end TaxGateway.Http
