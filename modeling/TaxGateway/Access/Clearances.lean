import TaxGateway.Access.Registry
import TaxGateway.Access.SignedSales
import TaxGateway.Devices.StatusVerdicts

/-!
Contract: which answers must come before a device signs a sale.

Owns:
- the answers that clear a device: of a check that finds it operational, and of an
  activation that shows it;
- that a device that is not activated stays so until one of them is given;
- that no sale is answered on it before;
- that a check that finds a device broken leaves it so.

Does not own: overlapping checks.
-/

namespace TaxGateway.Access

open TaxGateway.Php
open TaxGateway.Validation
open TaxGateway.Database
open TaxGateway.Effects
open TaxGateway.Transitions
open TaxGateway.Services
open TaxGateway.Services.KraDeviceService
open TaxGateway.Exceptions
open TaxGateway.Devices
open TaxGateway.Http

variable {collate : String → String}

/-- The device with the id, if there is one, is not activated. -/
def Blocked (id : String) (session : Session collate) : Prop :=
  ∀ row ∈ session.tenants.kraDevices, row.id = id → row.status ≠ .ACTIVATED

/-- An answer that clears the device with the id. -/
inductive Clears (id : String) : Arrival × Exit → Prop where
  | check {arrival : Arrival} {row : KraDeviceRow} {statusData : StatusReport}
      (isCheck : IsCheck arrival) (isDevice : row.id = id)
      (operational : statusData.operationalStatus = "OPERATIONAL") :
      Clears id (arrival, .answered (KraDeviceController.statusResponse row statusData))
  | activation {arrival : Arrival} {row : KraDeviceRow} (isActivation : IsActivation arrival)
      (isDevice : row.id = id) :
      Clears id (arrival, .answered (KraDeviceController.activatedResponse row))

/-! ## Checks -/

/-- A check ends with a report of another status, or with a `KraApiException`. -/
def ReportsBroken : Except Thrown StatusReport → Prop
  | .ok report => report.operationalStatus ≠ "OPERATIONAL"
  | .error (.kraApi _) => True
  | .error (.php _) => False

section Checks

variable {world : World} {session : Session collate} {kraDevice : KraDeviceRow}

theorem found_of_reportsBroken_check {xmlPayload : KraXml}
    (broken : ReportsBroken (exec (tryCatch (checkStatus world kraDevice xmlPayload)
      (statusFailed world kraDevice)) session).1) :
    finding world.platform (KraClient.sendCommand world.platform session.gateway.kraApi ""
        xmlPayload false fun _ => world.transport session.calls.length) = some false ∧
      world.database = none := by
  rw [exec_tryCatch] at broken
  cases outcome : KraClient.sendCommand world.platform session.gateway.kraApi "" xmlPayload false
      fun _ => world.transport session.calls.length with
  | error thrown =>
      rw [exec_checkStatus_of_error world kraDevice outcome] at broken
      cases thrown with
      | php other => exact broken.elim
      | kraApi e =>
          refine ⟨rfl, ?_⟩
          cases works : world.database with
          | none => rfl
          | some message =>
              -- The database refuses the save, whose exception replaces that of the call.
              simp only [statusFailed, saveStatus, updateDevice, works] at broken
              exact broken.elim
  | ok response =>
      cases found : finding world.platform (.ok response) with
      | none =>
          obtain ⟨thrown, threw⟩ := exec_checkStatus_of_unread world kraDevice outcome found
          rw [threw] at broken
          exact broken.elim
      | some operational =>
          obtain ⟨report, reported, ran⟩ :=
            exec_checkStatus_of_found world kraDevice outcome found
          rw [ran] at broken
          cases works : world.database with
          | some message =>
              simp only [saveStatus, updateDevice, works] at broken
              exact broken.elim
          | none =>
              simp only [saveStatus, updateDevice, works] at broken
              have notReported : report.operationalStatus ≠ "OPERATIONAL" := broken
              rw [Ne, reported] at notReported
              exact ⟨by simpa using notReported, rfl⟩

/-- Such a check was told so by KRA, and its save is done. -/
theorem found_of_reportsBroken
    (broken : ReportsBroken (exec (getDeviceStatus world kraDevice) session).1) :
    finding world.platform (statusOutcome world kraDevice session) = some false ∧
      world.database = none := by
  rcases getDeviceStatus_cases world kraDevice session with
    ⟨thrown, -, ran⟩ | ⟨xmlPayload, url, isOutcome, ran⟩
  · rw [ran] at broken
    exact broken.elim
  · rw [ran] at broken
    rw [isOutcome]
    exact @found_of_reportsBroken_check _ _ (Session.baseUrl.put url session) _ _ broken

/-- A broken device is not activated behind its check. -/
theorem blocked_of_reportsBroken (stored : kraDevice ∈ session.tenants.kraDevices)
    (broken : ReportsBroken (exec (getDeviceStatus world kraDevice) session).1) :
    Blocked kraDevice.id (exec (getDeviceStatus world kraDevice) session).2 := by
  obtain ⟨found, works⟩ := found_of_reportsBroken broken
  intro row isStored sameId
  have isRow := (mem_getDeviceStatus_iff stored).mp ⟨isStored, sameId⟩
  rw [found, works] at isRow
  rw [isRow]
  simp [checkedRow, savedRow_self, statusOf]

/-- A check that does not find the device operational clears no device, and no check
clears another one. -/
theorem blocked_getDeviceStatus {id : String} (blocked : Blocked id session)
    (silent : kraDevice.id = id →
      ¬ SaysOperational (exec (getDeviceStatus world kraDevice) session).1) :
    Blocked id (exec (getDeviceStatus world kraDevice) session).2 := by
  intro row isStored hasId
  rw [kraDevices_getDeviceStatus] at isStored
  obtain ⟨old, wasStored, rfl⟩ := List.mem_map.mp isStored
  by_cases isDevice : old.id = kraDevice.id
  · rw [if_pos isDevice] at hasId ⊢
    have sameId : old.id = id := by
      rw [← hasId]
      unfold checkedRow
      split <;> rfl
    have notActivated := blocked old wasStored sameId
    have notFound := silent (isDevice.symm.trans sameId)
    rw [saysOperational_iff] at notFound
    cases works : world.database with
    | some message => simpa [checkedRow] using notActivated
    | none =>
        cases found : finding world.platform (statusOutcome world kraDevice session) with
        | none => simpa [checkedRow] using notActivated
        | some operational =>
            cases operational with
            | true => exact absurd ⟨found, works⟩ notFound
            | false =>
                simp only [checkedRow, savedRow, statusOf, Bool.false_eq_true, if_false]
                split
                next => exact notActivated
                next => simp
  · rw [if_neg isDevice] at hasId ⊢
    exact blocked old wasStored hasId

end Checks

/-! ## Steps -/

section Steps

variable {installation : Installation} {arrival : Arrival} {session : Session collate}
  {id : String}

/-- A device that is not activated stays so, unless the request's answer clears it. -/
theorem blocked_leaves (blocked : Blocked id session) :
    Blocked id (installation.leaves arrival session) ∨
      Clears id (arrival, installation.exit arrival session) := by
  by_cases isActivation : IsActivation arrival
  · rcases activation_cases isActivation with
      ⟨same, -⟩ | ⟨row, owner, -, answered, registered, -⟩
    · refine .inl fun row isStored => ?_
      rw [same] at isStored
      exact blocked row isStored
    · rw [answered]
      by_cases isDevice : row.id = id
      · exact .inr (.activation isActivation isDevice)
      · refine .inl fun other isStored hasId => ?_
        have different : other.kraScuId ≠ row.kraScuId := by
          intro same
          rw [registered.isOnly other isStored same] at hasId
          exact isDevice hasId
        have isOther : other ∈ (installation.leaves arrival session).tenants.kraDevices.filter
            fun device => device.kraScuId ≠ row.kraScuId :=
          List.mem_filter.mpr ⟨isStored, decide_eq_true different⟩
        rw [registered.othersUntouched] at isOther
        exact blocked other (List.mem_filter.mp isOther).1 hasId
  · by_cases isCheck : IsCheck arrival
    · cases isAction : installation.action arrival session with
      | none =>
          rw [leaves_of_noAction isAction]
          exact .inl blocked
      | some action =>
          obtain ⟨device, -, -, rfl⟩ := check_of_action isCheck isAction
          obtain ⟨attributes, ended⟩ := exit_of_action isAction
          rw [leaves_of_action isAction, ended, KraDeviceController.getStatus, exec_bind_pure]
          dsimp only
          by_cases clears : device.id = id ∧
              SaysOperational (exec (getDeviceStatus arrival.world device) session).1
          · obtain ⟨isDevice, operational⟩ := clears
            cases reported : (exec (getDeviceStatus arrival.world device) session).1 with
            | error thrown =>
                rw [reported] at operational
                exact operational.elim
            | ok statusData =>
                rw [reported] at operational
                exact .inr (.check isCheck isDevice operational)
          · exact .inl (blocked_getDeviceStatus blocked fun isDevice operational =>
              clears ⟨isDevice, operational⟩)
    · refine .inl fun row isStored => ?_
      have same : (installation.leaves arrival session).tenants = session.tenants :=
        sameTenants_leaves isActivation isCheck
      rw [same] at isStored
      exact blocked row isStored

/-- A check of the device with the id finds it broken: it is answered with another status
than `OPERATIONAL`, or fails in KRA. -/
structure FindsBroken (installation : Installation) (check : Arrival) (session : Session collate)
    (id : String) : Prop where
  isCheck : IsCheck check
  ofDevice : check.request.path = id
  broken :
    (∃ row statusData, installation.exit check session =
        .answered (KraDeviceController.statusResponse row statusData) ∧
      statusData.operationalStatus ≠ "OPERATIONAL") ∨
    (installation.gateway check session).FailsInKra check.request

/-- An answer tells the operational status. -/
theorem operationalStatus_of_statusResponse {row other : KraDeviceRow}
    {statusData otherData : StatusReport}
    (same : KraDeviceController.statusResponse row statusData =
      KraDeviceController.statusResponse other otherData) :
    statusData.operationalStatus = otherData.operationalStatus := by
  simp only [KraDeviceController.statusResponse, jsonResponse, List.map_cons, List.map_nil,
    ApiResponse.mk.injEq, Option.some.injEq, Value.arr.injEq, List.cons.injEq, Prod.mk.injEq,
    Value.str.injEq, true_and] at same
  exact same.2.2.2.2.2.2.2.1

/-- Its action reports the device broken. -/
theorem FindsBroken.exists_action (finds : FindsBroken installation arrival session id) :
    ∃ device ∈ session.tenants.kraDevices, device.id = id ∧
      installation.action arrival session =
        some (KraDeviceController.getStatus arrival.world device) ∧
      ReportsBroken (exec (getDeviceStatus arrival.world device) session).1 := by
  rcases finds.broken with ⟨row, statusData, answered, notOperational⟩ | ⟨client, e, known, called⟩
  · obtain ⟨action, isAction, ended⟩ := action_of_answered (.inr ⟨_, finds.isCheck⟩) answered
    obtain ⟨device, isStored, sameId, rfl⟩ := check_of_action finds.isCheck isAction
    refine ⟨device, isStored, sameId.trans finds.ofDevice, isAction, ?_⟩
    rw [KraDeviceController.getStatus, exec_bind_pure] at ended
    cases reported : (exec (getDeviceStatus arrival.world device) session).1 with
    | error thrown =>
        rw [reported] at ended
        cases ended
    | ok report =>
        rw [reported] at ended
        have same := operationalStatus_of_statusResponse (Except.ok.inj ended)
        show report.operationalStatus ≠ "OPERATIONAL"
        rw [same]
        exact notOperational
  · obtain ⟨action, isAdmitted, ended⟩ := called_gateway client called
    have isAction : installation.action arrival session = some action := by
      rw [Installation.action, ← installation.authenticated_gateway arrival session, known]
      exact isAdmitted
    obtain ⟨device, isStored, sameId, rfl⟩ := check_of_action finds.isCheck isAction
    refine ⟨device, isStored, sameId.trans finds.ofDevice, isAction, ?_⟩
    rw [KraDeviceController.getStatus, exec_bind_pure] at ended
    cases reported : (exec (getDeviceStatus arrival.world device) session).1 with
    | ok report =>
        rw [reported] at ended
        cases ended
    | error thrown =>
        rw [reported] at ended
        obtain rfl := Except.error.inj ended
        trivial

theorem blocked_of_findsBroken (finds : FindsBroken installation arrival session id) :
    Blocked id (installation.leaves arrival session) := by
  obtain ⟨device, isStored, rfl, isAction, broken⟩ := finds.exists_action
  rw [leaves_of_action isAction, KraDeviceController.getStatus, exec_bind_pure]
  exact blocked_of_reportsBroken isStored broken

/-- A sale is answered only on an activated device. -/
theorem not_blocked_of_answered (isSale : IsSale arrival)
    (ofDevice : boundText (arrival.request.value "gatewayDeviceId") = some id)
    {response : ApiResponse}
    (answered : installation.exit arrival session = .answered response) :
    ¬ Blocked id session := by
  obtain ⟨action, isAction, -⟩ := action_of_answered (.inr ⟨_, isSale⟩) answered
  obtain ⟨client, -, isAdmitted⟩ := Option.bind_eq_some_iff.mp isAction
  rcases admitted_cases isAdmitted with ⟨isRoute, -⟩ | ⟨endpoint, device, isRoute, served, -⟩
  · exact absurd (isSale.symm.trans isRoute) (by simp)
  · obtain rfl := Route.endpoint.inj (isSale.symm.trans isRoute)
    obtain ⟨authorized, -⟩ := formReply_eq_served served
    obtain ⟨-, isFound, activated⟩ := deviceOfPin_of_authorize authorized
    obtain ⟨sameId, owner, owns, -⟩ := Tenants.findDevice_eq_some isFound
    intro blocked
    exact blocked device owns.isDevice (Option.some.inj (sameId.symm.trans ofDevice)) activated

end Steps

/-! ## Runs -/

section Runs

variable {installation : Installation} {id : String}

/-- Since `start`, the device has been blocked, or an answer has cleared it. -/
def BlockedUntilCleared (id : String) (start server : Server collate) : Prop :=
  ∃ exits, server.exits = start.exits ++ exits ∧
    (Blocked id server.session ∨ ∃ entry ∈ exits, Clears id entry)

theorem blockedUntilCleared_step {start server server' : Server collate} {arrival : Arrival}
    (held : BlockedUntilCleared id start server)
    (stepped : step installation server arrival = some server') :
    BlockedUntilCleared id start server' := by
  obtain ⟨exits, soFar, stillBlocked | ⟨entry, isEntry, clears⟩⟩ := held
  · obtain rfl := Option.some.inj stepped
    refine ⟨exits ++ [(arrival, installation.exit arrival server.session)], ?_, ?_⟩
    · rw [← List.append_assoc, ← soFar]
    · rcases blocked_leaves stillBlocked with stays | clears
      · exact .inl stays
      · exact .inr ⟨_, List.mem_append_right _ List.mem_cons_self, clears⟩
  · obtain rfl := Option.some.inj stepped
    refine ⟨exits ++ [(arrival, installation.exit arrival server.session)], ?_,
      .inr ⟨entry, List.mem_append_left _ isEntry, clears⟩⟩
    rw [← List.append_assoc, ← soFar]

theorem blockedUntilCleared_of_run {server server' : Server collate} {arrivals : List Arrival}
    (blocked : Blocked id server.session)
    (ran : run (step installation) server arrivals = some server') :
    BlockedUntilCleared id server server' := by
  have atStart : BlockedUntilCleared id server server :=
    ⟨[], (List.append_nil _).symm, .inl blocked⟩
  exact run_invariant (fun _ _ _ held stepped => blockedUntilCleared_step held stepped) atStart ran

/-- If a sale is answered, the device has been cleared since it was blocked. -/
theorem exists_clearance {server server' : Server collate}
    (held : BlockedUntilCleared id server server') {sale : Arrival} (isSale : IsSale sale)
    (ofDevice : boundText (sale.request.value "gatewayDeviceId") = some id)
    {response : ApiResponse}
    (answered : installation.exit sale server'.session = .answered response) :
    ∃ exits, server'.exits = server.exits ++ exits ∧ ∃ entry ∈ exits, Clears id entry := by
  obtain ⟨exits, soFar, stillBlocked | cleared⟩ := held
  · exact absurd stillBlocked (not_blocked_of_answered isSale ofDevice answered)
  · exact ⟨exits, soFar, cleared⟩

/-- Whatever requests arrive: a sale on a device that was not activated is answered only
after an answer that clears the device. -/
theorem cleared_before_sale {server server' : Server collate} {arrivals : List Arrival}
    (blocked : Blocked id server.session)
    (ran : run (step installation) server arrivals = some server') {sale : Arrival}
    (isSale : IsSale sale)
    (ofDevice : boundText (sale.request.value "gatewayDeviceId") = some id)
    {response : ApiResponse}
    (answered : installation.exit sale server'.session = .answered response) :
    ∃ exits, server'.exits = server.exits ++ exits ∧ ∃ entry ∈ exits, Clears id entry :=
  exists_clearance (blockedUntilCleared_of_run blocked ran) isSale ofDevice answered

/-- After a check that finds the device broken, a sale on it is answered only once another
check or an activation has cleared it. -/
theorem cleared_after_broken_check {server server' : Server collate} {check : Arrival}
    {arrivals : List Arrival} (finds : FindsBroken installation check server.session id)
    (ran : run (step installation) server (check :: arrivals) = some server') {sale : Arrival}
    (isSale : IsSale sale)
    (ofDevice : boundText (sale.request.value "gatewayDeviceId") = some id)
    {response : ApiResponse}
    (answered : installation.exit sale server'.session = .answered response) :
    ∃ exits, server'.exits =
        server.exits ++ (check, installation.exit check server.session) :: exits ∧
      ∃ entry ∈ exits, Clears id entry := by
  obtain ⟨between, stepped, rest⟩ := Option.bind_eq_some_iff.mp ran
  obtain rfl := Option.some.inj stepped
  obtain ⟨exits, soFar, cleared⟩ := exists_clearance
    (blockedUntilCleared_of_run (blocked_of_findsBroken finds) rest) isSale ofDevice answered
  refine ⟨exits, ?_, cleared⟩
  rw [soFar, List.append_assoc]
  rfl

end Runs

/-! ### A till that is broken, and mended -/

/-- The answer of KRA to a check of a till that does not work. -/
def brokenBody : String := "<R><STATUS>X</STATUS><DATA></DATA></R>"

/-- KRA answers every check with the body. -/
def checkingWorld (body : String) : World :=
  { Client.offlineWorld with
    platform := KraApi.platformReading
      [(brokenBody, .element "R" "" [.element "STATUS" "X" [], .element "DATA" "" []]),
        (operationalBody, .element "R" "" [.element "STATUS" "P" [], .element "DATA" "" []])]
    transport := fun _ => .answered ⟨200, body⟩ }

def tillCheck (body : String) : Arrival :=
  { shopArrival (checkingWorld body) (.endpoint .deviceStatus) [] with
    request := ⟨⟨shopTill.id, []⟩, .endpoint .deviceStatus, some "key-1", none⟩ }

/-- The till is found broken, and operational again. -/
def mendedDay : Option (Server id) :=
  run (step shopInstallation) ⟨shopSession, []⟩ [tillCheck brokenBody, tillCheck operationalBody]

theorem mendedDay_returns : mendedDay.isSome = true := by
  rfl

def mendedServer : Server id := mendedDay.get mendedDay_returns

theorem tillCheck_findsBroken :
    FindsBroken shopInstallation (tillCheck brokenBody) shopSession shopTill.id where
  isCheck := rfl
  ofDevice := rfl
  broken := .inl ⟨shopTill, statusReport
      (.element "R" "" [.element "STATUS" "X" [], .element "DATA" "" []]) (.element "DATA" "" []),
    by rfl, by decide⟩

/-- The bread is sold in the end. -/
theorem bread_answered :
    ∃ response, shopInstallation.exit breadArrival mendedServer.session = .answered response := by
  have isAnswered : (match shopInstallation.exit breadArrival mendedServer.session with
      | .answered _ => true
      | .failed _ => false) = true := by
    decide +kernel
  cases ended : shopInstallation.exit breadArrival mendedServer.session with
  | answered response => exact ⟨response, rfl⟩
  | failed response =>
      rw [ended] at isAnswered
      cases isAnswered

theorem isSale_breadArrival : IsSale breadArrival := rfl

theorem ofTill_breadArrival :
    boundText (breadArrival.request.value "gatewayDeviceId") = some shopTill.id := by
  decide +kernel

/-- The theorem at that day. -/
theorem cleared_after_broken_check_mendedDay :
    ∃ exits, mendedServer.exits = (tillCheck brokenBody,
        shopInstallation.exit (tillCheck brokenBody) shopSession) :: exits ∧
      ∃ entry ∈ exits, Clears shopTill.id entry := by
  obtain ⟨response, answered⟩ := bread_answered
  exact cleared_after_broken_check tillCheck_findsBroken
    (Option.some_get mendedDay_returns).symm isSale_breadArrival ofTill_breadArrival answered

/-- The server behind the first check, without a log. -/
def brokenServer : Server id :=
  ⟨shopInstallation.leaves (tillCheck brokenBody) shopSession, []⟩

/-- The general theorem from there on. -/
theorem cleared_before_sale_mendedDay :
    ∃ exits, [(tillCheck operationalBody,
        shopInstallation.exit (tillCheck operationalBody) brokenServer.session)] = exits ∧
      ∃ entry ∈ exits, Clears shopTill.id entry := by
  obtain ⟨response, answered⟩ := bread_answered
  have blocked : Blocked shopTill.id brokenServer.session :=
    blocked_of_findsBroken tillCheck_findsBroken
  have ran : run (step shopInstallation) brokenServer [tillCheck operationalBody] =
      some ⟨mendedServer.session, [(tillCheck operationalBody,
        shopInstallation.exit (tillCheck operationalBody) brokenServer.session)]⟩ := rfl
  exact cleared_before_sale blocked ran isSale_breadArrival ofTill_breadArrival answered

end TaxGateway.Access
