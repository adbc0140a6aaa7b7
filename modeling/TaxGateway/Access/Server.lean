import TaxGateway.Http.Controllers
import TaxGateway.Http.ErrorEnvelope

/-!
Contract: the API as a machine: requests that arrive one after another, each answered
from the session the ones before it have left.

Owns:
- what is fixed while the server runs, and what a request meets when it arrives;
- the service action a request gets to, if it gets to one;
- how the request ends and the session it leaves, with a log of both;
- that the two agree: a request ends as its action does.

Does not own: requests that run at the same time, or properties of runs.
-/

namespace TaxGateway.Access

open TaxGateway.Php
open TaxGateway.Database
open TaxGateway.Effects
open TaxGateway.Services
open TaxGateway.Exceptions
open TaxGateway.Http

/-- What is fixed while the server runs. -/
structure Installation where
  framework : Framework
  debug : Bool
  statusTexts : Nat → Option String
  apiClients : List (ApiClient × String)
  hashCheck : String → String → Bool
  otherFailures : Endpoint → Entries → List Failure
  debugAnswer : ApiRequest → Attributes → ApiResponse
  arrayOf : Xml → Value

/-- A request with what it meets: a clock, a trace id, and the world of the services. -/
structure Arrival where
  request : ApiRequest
  now : String
  traceUuid : String
  world : World

variable {collate : String → String}

namespace Installation

variable (installation : Installation) (arrival : Arrival) (session : Session collate)

/-- The gateway as the request finds it. -/
def gateway : Gateway where
  framework := installation.framework
  now := arrival.now
  debug := installation.debug
  statusTexts := installation.statusTexts
  uuid := arrival.traceUuid
  database := session.tenants
  apiClients := installation.apiClients
  hashCheck := installation.hashCheck
  otherFailures := installation.otherFailures
  serve endpoint device request :=
    (exec (serve arrival.world installation.arrayOf endpoint device request) session).1
  initializeDevice request :=
    (exec (KraDeviceController.initializeKraDevice arrival.world request.input) session).1
  debugAnswer := installation.debugAnswer

/-- The client a request comes from. It depends on nothing that changes. -/
def client : Option ApiClient :=
  (arrival.request.apiKey.filter fun apiKey => !(Value.str apiKey).isEmpty).bind fun apiKey =>
    ((installation.apiClients.filter fun client => client.1.isActive).find? fun client =>
      installation.hashCheck apiKey client.2).map Prod.fst

theorem authenticated_gateway :
    (installation.gateway arrival session).authenticated arrival.request =
      installation.client arrival := rfl

/-- The action a request of the client gets to, if it is admitted. -/
def admitted (client : ApiClient) : Option (Service collate ApiResponse) :=
  match arrival.request.route with
  | .initializeDevice =>
      if InitializeKraDeviceRequest.authorize session.tenants (some client)
            arrival.request.input = true ∧
          InitializeKraDeviceRequest.failedFields session.tenants arrival.request.input = [] then
        some (KraDeviceController.initializeKraDevice arrival.world arrival.request.input)
      else none
  | .endpoint endpoint =>
      match reply installation.otherFailures session.tenants client endpoint
        arrival.request.toRequest with
      | .served device =>
          some (serve arrival.world installation.arrayOf endpoint device arrival.request)
      | .forbidden _ | .unprocessable _ | .notFound => none
  | .debug | .testAuthPin | .unmatched => none

/-- The action a request gets to. -/
def action : Option (Service collate ApiResponse) :=
  (installation.client arrival).bind (installation.admitted arrival session)

/-- The session a request leaves. -/
def leaves : Session collate :=
  match installation.action arrival session with
  | some action => (exec action session).2
  | none => session

/-- How a request ends. -/
def exit : Exit := (installation.gateway arrival session).handle arrival.request

end Installation

/-! ## The machine -/

/-- The session, and how each request so far has ended. -/
structure Server (collate : String → String) where
  session : Session collate
  exits : List (Arrival × Exit)

/-- A request is handled. None has to wait. -/
def step (installation : Installation) (server : Server collate) (arrival : Arrival) :
    Option (Server collate) :=
  some ⟨installation.leaves arrival server.session,
    server.exits ++ [(arrival, installation.exit arrival server.session)]⟩

/-! ## A request ends as its action does -/

section Exits

variable {installation : Installation} {arrival : Arrival} {session : Session collate}

/-- The service call the pipeline gets to is the action. -/
theorem called_gateway (client : ApiClient) {outcome : Except Thrown ApiResponse}
    (called : (installation.gateway arrival session).called arrival.request client =
      .ok outcome) :
    ∃ action, installation.admitted arrival session client = some action ∧
      (exec action session).1 = outcome := by
  cases isRoute : arrival.request.route with
  | initializeDevice =>
      simp only [Gateway.called, isRoute] at called
      split at called
      next => cases called
      next authorized =>
        split at called
        next => cases called
        next valid =>
          have isAuthorized : InitializeKraDeviceRequest.authorize session.tenants (some client)
              arrival.request.input = true := by
            simpa [Installation.gateway] using authorized
          have isValid : InitializeKraDeviceRequest.failedFields session.tenants
              arrival.request.input = [] := by
            simpa [Installation.gateway] using valid
          simp only [Installation.admitted, isRoute]
          rw [if_pos ⟨isAuthorized, isValid⟩]
          exact ⟨_, rfl, Except.ok.inj called⟩
  | endpoint endpoint =>
      simp only [Gateway.called, isRoute] at called
      split at called
      next => cases called
      next => cases called
      next => cases called
      next device served =>
        have isServed : reply installation.otherFailures session.tenants client endpoint
            arrival.request.toRequest = .served device := served
        simp only [Installation.admitted, isRoute, isServed]
        exact ⟨_, rfl, Except.ok.inj called⟩
  | debug | testAuthPin | unmatched =>
      simp only [Gateway.called, isRoute] at called
      cases called

/-- What an admitted request is: an activation that passed its checks, or a request served
on a device. -/
theorem admitted_cases {client : ApiClient} {action : Service collate ApiResponse}
    (isAdmitted : installation.admitted arrival session client = some action) :
    arrival.request.route = .initializeDevice ∧
        InitializeKraDeviceRequest.authorize session.tenants (some client)
          arrival.request.input = true ∧
        InitializeKraDeviceRequest.failedFields session.tenants arrival.request.input = [] ∧
        action = KraDeviceController.initializeKraDevice arrival.world arrival.request.input ∨
      ∃ endpoint device, arrival.request.route = .endpoint endpoint ∧
        reply installation.otherFailures session.tenants client endpoint
          arrival.request.toRequest = .served device ∧
        action = serve arrival.world installation.arrayOf endpoint device arrival.request := by
  unfold Installation.admitted at isAdmitted
  split at isAdmitted
  next isRoute =>
    split at isAdmitted
    next admits =>
      exact .inl ⟨isRoute, admits.1, admits.2, (Option.some.inj isAdmitted).symm⟩
    next => cases isAdmitted
  next endpoint isRoute =>
    split at isAdmitted
    next device served =>
      exact .inr ⟨endpoint, device, isRoute, served, (Option.some.inj isAdmitted).symm⟩
    next => cases isAdmitted
    next => cases isAdmitted
    next => cases isAdmitted
  next => cases isAdmitted
  next => cases isAdmitted
  next => cases isAdmitted

theorem called_of_admitted {client : ApiClient} {action : Service collate ApiResponse}
    (isAdmitted : installation.admitted arrival session client = some action) :
    (installation.gateway arrival session).called arrival.request client =
      .ok (exec action session).1 := by
  unfold Gateway.called
  rcases admitted_cases isAdmitted with
    ⟨isRoute, authorized, valid, rfl⟩ | ⟨endpoint, device, isRoute, served, rfl⟩
  · simp only [isRoute]
    rw [if_neg (by simp [Installation.gateway, authorized])]
    exact if_neg (not_not.mpr valid)
  · simp only [isRoute]
    have isServed : reply (installation.gateway arrival session).otherFailures
        (installation.gateway arrival session).database client endpoint
        arrival.request.toRequest = .served device := served
    rw [isServed]
    rfl

/-- Only requests to a service have an action. -/
theorem route_of_admitted {client : ApiClient} {action : Service collate ApiResponse}
    (isAdmitted : installation.admitted arrival session client = some action) :
    arrival.request.route = .initializeDevice ∨
      ∃ endpoint, arrival.request.route = .endpoint endpoint := by
  rcases admitted_cases isAdmitted with ⟨isRoute, -⟩ | ⟨endpoint, _, isRoute, -⟩
  · exact .inl isRoute
  · exact .inr ⟨endpoint, isRoute⟩

/-- A request without an action does nothing. -/
theorem leaves_of_noAction (noAction : installation.action arrival session = none) :
    installation.leaves arrival session = session := by
  rw [Installation.leaves, noAction]

/-- A request with one leaves what its action does. -/
theorem leaves_of_action {action : Service collate ApiResponse}
    (isAction : installation.action arrival session = some action) :
    installation.leaves arrival session = (exec action session).2 := by
  rw [Installation.leaves, isAction]

/-- A request with an action ends as the action does. -/
theorem exit_of_action {action : Service collate ApiResponse}
    (isAction : installation.action arrival session = some action) :
    ∃ attributes, installation.exit arrival session =
      (installation.gateway arrival session).finish arrival.request attributes
        (.ok (exec action session).1) := by
  obtain ⟨client, known, isAdmitted⟩ := Option.bind_eq_some_iff.mp isAction
  have isService := route_of_admitted isAdmitted
  have matched : arrival.request.route ≠ .unmatched := by
    rcases isService with isRoute | ⟨endpoint, isRoute⟩ <;> simp [isRoute]
  have isKnown := (installation.authenticated_gateway arrival session).trans known
  refine ⟨(installation.gateway arrival session).passed arrival.request client, ?_⟩
  rw [Installation.exit, Gateway.handle_of_authenticated matched isKnown,
    ← called_of_admitted isAdmitted]
  rcases isService with isRoute | ⟨endpoint, isRoute⟩ <;>
    simp [Gateway.destination, Gateway.passed, isRoute]

/-- A request to a service that is answered got its answer from its action. -/
theorem action_of_answered {response : ApiResponse}
    (isService : arrival.request.route = .initializeDevice ∨
      ∃ endpoint, arrival.request.route = .endpoint endpoint)
    (answered : installation.exit arrival session = .answered response) :
    ∃ action, installation.action arrival session = some action ∧
      (exec action session).1 = .ok response := by
  have matched : arrival.request.route ≠ .unmatched := by
    rcases isService with isRoute | ⟨endpoint, isRoute⟩ <;> simp [isRoute]
  unfold Installation.exit at answered
  cases known : installation.client arrival with
  | none =>
      have unknown := (installation.authenticated_gateway arrival session).trans known
      obtain ⟨message, code, failed⟩ := Gateway.handle_of_unknown matched unknown
      rw [failed] at answered
      cases answered
  | some client =>
      have isKnown := (installation.authenticated_gateway arrival session).trans known
      rw [Gateway.handle_of_authenticated matched isKnown] at answered
      have finished : (installation.gateway arrival session).finish arrival.request
          ((installation.gateway arrival session).passed arrival.request client)
          ((installation.gateway arrival session).called arrival.request client) =
            .answered response := by
        rcases isService with isRoute | ⟨endpoint, isRoute⟩ <;>
          simpa [Gateway.destination, Gateway.passed, isRoute] using answered
      cases outcome : (installation.gateway arrival session).called arrival.request client with
      | error refusal =>
          rw [outcome] at finished
          cases finished
      | ok result =>
          cases result with
          | error thrown =>
              rw [outcome] at finished
              cases finished
          | ok given =>
              rw [outcome] at finished
              obtain rfl := Exit.answered.inj finished
              obtain ⟨action, isAction, ended⟩ := called_gateway client outcome
              refine ⟨action, ?_, ended⟩
              rw [Installation.action, known]
              exact isAction

/-- A request to a service that has no action fails. -/
theorem failed_of_noAction
    (isService : arrival.request.route = .initializeDevice ∨
      ∃ endpoint, arrival.request.route = .endpoint endpoint)
    (noAction : installation.action arrival session = none) :
    ∃ response, installation.exit arrival session = .failed response := by
  cases ended : installation.exit arrival session with
  | failed response => exact ⟨response, rfl⟩
  | answered response =>
      obtain ⟨action, isAction, -⟩ := action_of_answered isService ended
      rw [noAction] at isAction
      cases isAction

end Exits

end TaxGateway.Access
