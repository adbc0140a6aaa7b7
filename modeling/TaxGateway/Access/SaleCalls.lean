import TaxGateway.Access.SignedSales
import TaxGateway.Sales.Gateway

/-!
Contract: an API request as a call of the gateway machine.

Owns:
- what requests leave of the client: all but its base URL;
- the call a sale makes, on the machine's table and queue, and the answer it is given;
- what a validator has to report of a sale for that, and one that does.

Does not own: the steps of the workers.
-/

namespace TaxGateway.Access

open TaxGateway.Php
open TaxGateway.Validation
open TaxGateway.Database
open TaxGateway.Effects
open TaxGateway.Transitions
open TaxGateway.Services
open TaxGateway.Exceptions
open TaxGateway.Http
open TaxGateway.Client (SameClient)
open TaxGateway.Sales (Setting System)

variable {collate : String → String}

/-! ## The client -/

section Client

variable {installation : Installation} {arrival : Arrival} {session : Session collate}

/-- No request changes more of the client than its base URL. -/
theorem sameClient_leaves : SameClient session (installation.leaves arrival session) := by
  rcases leaves_cases installation arrival session with same | ⟨_, _, -, -, -, acts⟩
  · rw [same]
    exact Std.Refl.refl session
  · exact acts.sameClient

end Client

/-! ## A sale as a call -/

/-- What the validator finds wrong with a sale is reported. A hook that throws reports
nothing. -/
def ReportsSales (installation : Installation) : Prop :=
  ∀ (database : Tenants) (input : Entries), tenantFailures database input = [] →
    installation.otherFailures .processTransaction input = [] →
      schemaPasses (ProcessTransactionRequest.rules (KraSalesController.lookups database) input)
          input = true ∧
        ∀ errors, ProcessTransactionRequest.afterHook input = .ok errors → errors = []

/-- The request runs the code and the configuration of the setting. -/
structure RunsUnder (setting : Setting) (arrival : Arrival) : Prop where
  samePlatform : arrival.world.platform = setting.platform
  sameConfig : arrival.world.config = setting.config

/-- The table and the queue are those of the gateway machine, and the client is the given
one, but for its base URL. -/
structure Shares (kraApi : KraApi) (session : Session collate) (system : System collate) :
    Prop where
  sameTransactions : system.transactions = session.gateway.transactions
  sameJobs : system.jobs = session.gateway.jobs
  sameClient : ∀ url, { session.gateway.kraApi with baseUrl := url } =
    { kraApi with baseUrl := url }

/-- The call of a sale. -/
structure CallOf (arrival : Arrival) (call : Sales.Call) : Prop where
  isSale : IsSale arrival
  sameInput : call.request.input = arrival.request.input
  ofDevice : boundText (arrival.request.value "gatewayDeviceId") = some call.device.id
  sameId : call.uuid = arrival.world.uuid
  sameClock : call.now = arrival.world.now

/-- The answer to a sale whose call stands there. -/
def answerAt (phase : Sales.CallPhase) : Option ApiResponse :=
  match phase with
  | .returned transaction => some (KraSalesController.signedResponse transaction)
  | .received | .answered _ _ | .inserted _ | .undispatched _ _ | .threw _ => none

/-- The answer to a sale, if the entry is one. -/
def saleAnswer? (entry : Arrival × Exit) : Option ApiResponse :=
  match answeredSale? entry, entry.2 with
  | some _, .answered response => some response
  | _, _ => none

section Calls

variable {installation : Installation} {setting : Setting} {arrival : Arrival}
  {session : Session collate} {system : System collate}

/-- The base URL that was set before does not show. -/
theorem processTransaction_setBaseUrl (platform : Platform) (config : KraConfig) (sale : Sale)
    (network : Outgoing → Transport) (database queue : Option String) (gateway : Gateway collate)
    (url : String) :
    let result := KraSalesService.processTransaction platform config sale network database queue
      gateway
    let result' := KraSalesService.processTransaction platform config sale network database
      queue (KraSalesService.setBaseUrl gateway url)
    result'.1 = result.1 ∧ result'.2.transactions = result.2.transactions ∧
      result'.2.jobs = result.2.jobs := by
  have sameSign : KraSalesService.sign platform config
      (KraSalesService.setBaseUrl gateway url).kraApi sale network =
        KraSalesService.sign platform config gateway.kraApi sale network := rfl
  cases signed : KraSalesService.sign platform config gateway.kraApi sale network with
  | error thrown =>
      obtain ⟨outcome, transactions, jobs⟩ :=
        @KraSalesService.processTransaction_of_sign_error _ _ _ _ _ database queue _ _ signed
      obtain ⟨outcome', transactions', jobs'⟩ :=
        @KraSalesService.processTransaction_of_sign_error _ _ _ _ _ database queue _ _
          (sameSign.trans signed)
      exact ⟨outcome'.trans outcome.symm, transactions'.trans transactions.symm,
        jobs'.trans jobs.symm⟩
  | ok answer =>
      obtain ⟨outcome, transactions, jobs⟩ :=
        @KraSalesService.processTransaction_of_sign_ok _ _ _ _ _ database queue _ _ _ signed
      obtain ⟨outcome', transactions', jobs'⟩ :=
        @KraSalesService.processTransaction_of_sign_ok _ _ _ _ _ database queue _ _ _
          (sameSign.trans signed)
      rw [KraSalesService.record_setBaseUrl] at outcome' transactions' jobs'
      exact ⟨outcome'.trans outcome.symm, transactions'.trans transactions.symm,
        jobs'.trans jobs.symm⟩

/-- The gateway of the machine is that of the session, with the base URL of its own client. -/
theorem Shares.gateway_eq (shares : Shares setting.kraApi session system) :
    system.gateway setting =
      KraSalesService.setBaseUrl session.gateway setting.kraApi.baseUrl := by
  have sameClient := shares.sameClient setting.kraApi.baseUrl
  rw [System.gateway, KraSalesService.setBaseUrl, shares.sameTransactions, shares.sameJobs]
  exact congrArg (Services.Gateway.mk _ _) sameClient.symm

theorem saleAnswer?_failed (arrival : Arrival) (response : ApiResponse) :
    saleAnswer? (arrival, .failed response) = none := by
  rw [saleAnswer?, answeredSale?_failed]

theorem saleAnswer?_of_noSale (noSale : ¬ IsSale arrival) (exit : Exit) :
    saleAnswer? (arrival, exit) = none := by
  rw [saleAnswer?, answeredSale?_of_noSale noSale]

/-- A sale is answered when its call has returned. -/
theorem saleAnswer?_finish (isSale : IsSale arrival) {outcome : Except Thrown Transaction}
    {phase : Sales.CallPhase} (ends : Sales.EndsAs outcome phase) (gateway : Http.Gateway)
    (attributes : Attributes) :
    saleAnswer? (arrival, gateway.finish arrival.request attributes
        (.ok (outcome.map KraSalesController.signedResponse))) = answerAt phase := by
  cases outcome with
  | ok transaction =>
      obtain rfl : phase = .returned transaction := ends
      have isAnswered := answeredSale?_answered isSale
        (KraSalesController.signedResponse transaction)
      simp only [Except.map, Http.Gateway.finish, saleAnswer?, isAnswered]
      rfl
  | error thrown =>
      simp only [Except.map, Http.Gateway.finish, saleAnswer?_failed]
      rcases ends with rfl | ⟨_, _, rfl, -⟩ <;> rfl

/-- The service called on an accepted request is a call of the machine. -/
theorem call_of_accepted (under : RunsUnder setting arrival)
    (shares : Shares setting.kraApi session system) (request : AcceptedRequest)
    (device : KraDevice) :
    let ended := exec (Client.processTransaction arrival.world device
      (validatedSchema (ProcessTransactionRequest.rules request.lookups request.input)
        request.input)) session
    ∃ labels phase,
      run (System.step setting) system labels =
        some { system with
          transactions := ended.2.gateway.transactions
          jobs := ended.2.gateway.jobs
          calls := system.calls ++
            [⟨request, device, arrival.world.uuid, arrival.world.now, phase⟩] } ∧
      Sales.EndsAs ended.1 phase := by
  intro ended
  let transport := arrival.world.transport session.calls.length
  obtain ⟨sameOutcome, sameGateway⟩ := @Client.exec_processTransaction_eq _ arrival.world device
    (validatedSchema (ProcessTransactionRequest.rules request.lookups request.input)
      request.input) session
  obtain ⟨sameResult, sameTransactions, sameJobs⟩ := processTransaction_setBaseUrl
    setting.platform setting.config
    ⟨device, request.validated, arrival.world.uuid, arrival.world.now⟩ (fun _ => transport)
    arrival.world.database arrival.world.queue session.gateway setting.kraApi.baseUrl
  obtain ⟨labels, phase, ran, ends⟩ := Sales.call_run setting system request device
    arrival.world.uuid arrival.world.now transport arrival.world.database arrival.world.queue
  rw [under.samePlatform, under.sameConfig] at sameOutcome sameGateway
  rw [shares.gateway_eq] at ran ends
  refine ⟨_, phase, ran.trans ?_, ?_⟩
  · rw [sameGateway]
    simp only [Sales.withCall, Sales.Call.sale, sameTransactions, sameJobs]
    rfl
  · rw [sameOutcome]
    exact (show _ = _ from sameResult) ▸ ends

/-- The action of a sale throws in a hook, or is the service called on an accepted request, for
the device the sale names. -/
theorem accepted_of_action (reports : ReportsSales installation) (isSale : IsSale arrival)
    {action : Service collate ApiResponse}
    (isAction : installation.action arrival session = some action) :
    (∃ thrown, exec action session = (.error thrown, session)) ∨
      ∃ (request : AcceptedRequest) (device : KraDeviceRow),
        request.input = arrival.request.input ∧
        boundText (arrival.request.value "gatewayDeviceId") = some device.id ∧
        exec action session = exec
          (Client.processTransaction arrival.world (session.tenants.kraDevice device)
              (validatedSchema (ProcessTransactionRequest.rules request.lookups request.input)
                request.input) >>= fun transaction =>
            pure (KraSalesController.signedResponse transaction)) session := by
  obtain ⟨client, -, isAdmitted⟩ := Option.bind_eq_some_iff.mp isAction
  rcases admitted_cases isAdmitted with ⟨isRoute, -⟩ | ⟨endpoint, device, isRoute, served, rfl⟩
  · exact absurd (isSale.symm.trans isRoute) (by simp)
  obtain rfl := Route.endpoint.inj (isSale.symm.trans isRoute)
  obtain ⟨authorized, valid, unreported⟩ := formReply_eq_served served
  obtain ⟨passes, silent⟩ := reports session.tenants arrival.request.input valid unreported
  rw [serve]
  cases hook : ProcessTransactionRequest.afterHook arrival.request.input with
  | error thrown => exact .inl ⟨_, exec_process_of_error hook⟩
  | ok errors =>
      obtain rfl := silent errors hook
      let request : AcceptedRequest :=
        ⟨KraSalesController.lookups session.tenants, arrival.request.input, by
          simp [ProcessTransactionRequest.accepts, passes, hook]⟩
      refine .inr ⟨request, device, rfl, ?_, exec_process_of_ok hook⟩
      exact (ProcessTransactionRequest.of_authorize_eq_some authorized).2

/-- A sale is nothing to the machine, and fails; or it is a call of the machine, and is
answered exactly when the call returns. -/
theorem call_of_sale (reports : ReportsSales installation) (under : RunsUnder setting arrival)
    (shares : Shares setting.kraApi session system) (isSale : IsSale arrival) :
    SameReceipts session (installation.leaves arrival session) ∧
        (∃ response, installation.exit arrival session = .failed response) ∨
      ∃ labels call, CallOf arrival call ∧
        run (System.step setting) system labels =
          some { system with
            transactions := (installation.leaves arrival session).gateway.transactions
            jobs := (installation.leaves arrival session).gateway.jobs
            calls := system.calls ++ [call] } ∧
        saleAnswer? (arrival, installation.exit arrival session) = answerAt call.phase := by
  cases isAction : installation.action arrival session with
  | none =>
      refine .inl ⟨?_, failed_of_noAction (.inr ⟨_, isSale⟩) isAction⟩
      rw [leaves_of_noAction isAction]
      exact Std.Refl.refl session
  | some action =>
      obtain ⟨attributes, ended⟩ := exit_of_action isAction
      rw [leaves_of_action isAction, ended]
      rcases accepted_of_action reports isSale isAction with
        ⟨thrown, threw⟩ | ⟨request, device, sameInput, ofDevice, called⟩
      · rw [threw]
        exact .inl ⟨Std.Refl.refl session, _, rfl⟩
      · rw [called, exec_bind_pure]
        obtain ⟨labels, phase, ran, ends⟩ := call_of_accepted under shares request
          (session.tenants.kraDevice device)
        refine .inr ⟨labels, _, ⟨isSale, sameInput, ofDevice, rfl, rfl⟩, ran, ?_⟩
        exact saleAnswer?_finish isSale ends _ attributes

end Calls

/-! ## The validator of a sale -/

/-- What the validator reports of the fields of a sale but the device and the PIN: the fields
that fail their rules, or if there are none, the errors of the hook. -/
def saleFailures (input : Entries) : List Failure :=
  let others := (ProcessTransactionRequest.rules ⟨fun _ => true, fun _ => true⟩ input).drop 2
  match others.filter fun attr => !attr.accepts input with
  | [] => (ProcessTransactionRequest.afterHook input).toOption.getD []
  | failed => failed.map fun attr => (attr.name, "Invalid")

/-- A device id without failures passes its rules. -/
theorem passes_of_idFailures {database : Tenants} {value : Option Value}
    (noFailure : idFailures database value = []) :
    passes [.required, .matching ProcessTransactionRequest.isUuid,
      .matching (KraSalesController.lookups database).deviceExists] value = true := by
  unfold idFailures at noFailure
  split at noFailure
  next => cases noFailure
  next =>
    split at noFailure
    next text _ =>
      split at noFailure
      next => cases noFailure
      next isUuid =>
        split at noFailure
        next isStored =>
          have valid : ProcessTransactionRequest.isUuid text = true := by simpa using isUuid
          have stored : (KraSalesController.lookups database).deviceExists text = true := isStored
          simp [passes, Rule.holds, valid, stored]
        next => cases noFailure
    next => cases noFailure

/-- So does a PIN. -/
theorem passes_of_pinFailures {database : Tenants} {value : Option Value}
    (noFailure : pinFailures database value = []) :
    passes [.required, .string, .max 20,
      .matching (KraSalesController.lookups database).pinExists] value = true := by
  unfold pinFailures at noFailure
  split at noFailure
  next => cases noFailure
  next =>
    split at noFailure
    next text _ =>
      split at noFailure
      next => cases noFailure
      next short =>
        split at noFailure
        next isStored =>
          have fits : text.length ≤ 20 := not_lt.mp short
          have stored : (KraSalesController.lookups database).pinExists text = true := isStored
          simp [passes, Rule.holds, size, stored, Rule.isNumeric, fits]
        next => cases noFailure
    next => cases noFailure

/-- A gateway that reports them reports all that is wrong with a sale. -/
theorem reportsSales_of_saleFailures {installation : Installation}
    (reported : installation.otherFailures .processTransaction = saleFailures) :
    ReportsSales installation := by
  intro database input valid unreported
  rw [reported, saleFailures] at unreported
  obtain ⟨validId, validPin⟩ := List.append_eq_nil_iff.mp valid
  have passesId := passes_of_idFailures (List.map_eq_nil_iff.mp validId)
  have passesPin := passes_of_pinFailures (List.map_eq_nil_iff.mp validPin)
  split at unreported
  next noneFails =>
    have othersPass : ((ProcessTransactionRequest.rules ⟨fun _ => true, fun _ => true⟩
        input).drop 2).all (fun attr => attr.accepts input) = true := by
      rw [List.all_eq_true]
      intro attr isOther
      simpa using List.filter_eq_nil_iff.mp noneFails attr isOther
    constructor
    · have allRules : ProcessTransactionRequest.rules (KraSalesController.lookups database) input =
          .leaf ⟨"gatewayDeviceId", [.required, .matching ProcessTransactionRequest.isUuid,
            .matching (KraSalesController.lookups database).deviceExists]⟩ ::
          .leaf ⟨"taxpayerPin", [.required, .string, .max 20,
            .matching (KraSalesController.lookups database).pinExists]⟩ ::
          (ProcessTransactionRequest.rules ⟨fun _ => true, fun _ => true⟩ input).drop 2 := rfl
      rw [schemaPasses, allRules, List.all_cons, List.all_cons, othersPass]
      simp [Attribute.accepts, Attribute.name, Attribute.field, passesId, passesPin]
    · intro errors hook
      rw [hook] at unreported
      exact unreported
  next failed someFails =>
    exact absurd (List.map_eq_nil_iff.mp unreported) someFails

end TaxGateway.Access
