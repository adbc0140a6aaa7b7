import TaxGateway.Access.Permissions
import TaxGateway.Client.Calls

/-!
Contract: an activation that KRA refuses because the device is activated already.

Owns:
- what it is to recover from the refusal;
- the fate of `initializeDevice` on such an answer: the helper that is to find
  the device parses JSON as XML, and its `catch` clause names a class that does
  not exist, so nothing is recovered.

Does not own: activations that KRA grants.
-/

namespace TaxGateway.Devices

open TaxGateway.Php
open TaxGateway.Database
open TaxGateway.Effects
open TaxGateway.Services
open TaxGateway.Services.Payloads
open TaxGateway.Services.Session
open TaxGateway.Services.KraDeviceService

/-- A JSON answer with the result code `41`, whose message says that the device of
an SCU id is activated. -/
structure TellsActivated (world : World) (response : HttpResponse) (kraScuId : String) :
    Prop where
  isJson : ∃ parsed resultMsg, world.jsonDecode response.body = some parsed ∧
    parsed.index "resultCd" = some (.str "41") ∧
    parsed.index "resultMsg" = some (.str resultMsg) ∧
    ("Device " ++ kraScuId ++ " is already activated").toList <:+: resultMsg.toList

section Recovery

variable {collate : String → String}

/-- The stored device is returned with the status `ACTIVATED`, which its row has from
then on, and no row is new. -/
def Recovered (device : KraDeviceRow) (session : Session collate)
    (ended : Except Thrown KraDeviceRow × Session collate) : Prop :=
  ∃ returned, ended.1 = .ok returned ∧ returned.id = device.id ∧
    returned.kraScuId = device.kraScuId ∧ returned.status = .ACTIVATED ∧
    ended.2.tenants.kraDevices.map KraDeviceRow.id =
      session.tenants.kraDevices.map KraDeviceRow.id ∧
    ∀ stored ∈ ended.2.tenants.kraDevices, stored.id = device.id → stored.status = .ACTIVATED

variable {world : World} {session : Session collate} {response : HttpResponse}

/-- The switch keeps everything but the base URL. -/
theorem exec_switchIf (isVscu : Bool) (url : String) (session : Session collate) :
    ∃ between, exec (switchIf isVscu (.ok url)) session = (.ok ⟨⟩, between) ∧
      between.gateway.kraApi.simulation = session.gateway.kraApi.simulation ∧
      between.calls = session.calls := by
  cases isVscu with
  | false => exact ⟨session, rfl, rfl, rfl⟩
  | true => exact ⟨baseUrl.put url session, rfl, rfl, rfl⟩

/-- The client makes a `KraApiException` of such an answer, whatever its HTTP status,
and the exception holds the body. -/
theorem sendJsonCommand_told {kraScuId : String} (told : TellsActivated world response kraScuId)
    {kraApi : KraApi} (live : kraApi.simulation = none) (endpoint : String)
    (jsonPayload : List (String × Value)) (isStrictTimeout : Bool) :
    ∃ e, KraClient.sendJsonCommand world.platform world.jsonDecode world.simulateJson kraApi
        endpoint jsonPayload isStrictTimeout (fun _ => .answered response) =
          .error (.kraApi e) ∧ e.kraRawResponse = some response.body := by
  obtain ⟨parsed, resultMsg, decoded, code, message, -⟩ := told.isJson
  simp only [KraClient.sendJsonCommand, live, Option.isSome_none, Bool.false_eq_true, if_false,
    KraClient.exchange]
  by_cases httpFailed : 400 ≤ response.status
  · simp only [httpFailed, if_true]
    exact ⟨_, rfl, rfl⟩
  · have text : parsed.coalesce "resultMsg" (.str "No specific message.") = .str resultMsg :=
      Value.coalesce_of_index_some message (by simp)
    simp only [httpFailed, if_false, ok_bind, KraClient.readJson, decoded, code, text,
      KraClient.interpolate]
    exact ⟨_, rfl, rfl⟩

/-- The helper throws on a body that is not XML, and its `catch` clause lets that
pass. -/
theorem exec_extractKraScuId {body : String}
    (notXml : world.platform.simplexmlLoadString body = none) (session : Session collate) :
    exec (extractKraScuIdFromErrorResponse world (some body)) session =
      (.error (.php (.exception "simplexml_load_string(): parser error")), session) := by
  simp only [extractKraScuIdFromErrorResponse, parseXml, notXml]
  rfl

/-- So the recovery ends in an exception, whatever the code. -/
theorem exec_recover_throws {e : KraApiException} (activation : Activation)
    (raw : e.kraRawResponse = some response.body)
    (notXml : world.platform.simplexmlLoadString response.body = none)
    (session : Session collate) :
    ∃ thrown, (exec (recover world activation e) session).1 = .error thrown := by
  unfold recover
  by_cases isActivated : e.kraErrorCode = some "41"
  · rw [if_pos isActivated, raw, exec_bind_error (exec_extractKraScuId notXml session)]
    exact ⟨_, rfl⟩
  · rw [if_neg isActivated]
    exact ⟨_, rfl⟩

/-- No activation that KRA refuses as made already is recovered. A text that is
JSON is never XML. -/
theorem activation_never_recovered
    (jsonIsNoXml : ∀ body parsed, world.jsonDecode body = some parsed →
      world.platform.simplexmlLoadString body = none)
    (live : session.gateway.kraApi.simulation = none) {data : Entries} {activation : Activation}
    (accepted : readActivation session.tenants (.arr data) = .ok activation)
    (answered : world.transport session.calls.length = .answered response)
    {device : KraDeviceRow} (told : TellsActivated world response device.kraScuId) :
    ¬ Recovered device session (exec (initializeDevice world data) session) := by
  intro recovered
  obtain ⟨returned, ended, -⟩ := recovered
  obtain ⟨parsed, resultMsg, decoded, -⟩ := told.isJson
  have notXml := jsonIsNoXml response.body parsed decoded
  rw [initializeDevice, exec_bind_ok (exec_get session), accepted, exec_raise_bind_ok] at ended
  obtain ⟨between, switched, sameSimulation, sameCalls⟩ :=
    exec_switchIf (isVscu activation.deviceType) world.config.vscuJarBaseUrl session
  rw [Cell.exec_restoring_ok switched, exec_tryCatch] at ended
  let jsonPayload : List (String × Value) :=
    [("tin", .str activation.taxpayerPin.pin), ("bhfId", activation.branchOfficeId),
      ("dvcTy", activation.deviceType), ("dvcSrlNo", activation.dvcSrlNo)]
  obtain ⟨e, threw, raw⟩ := sendJsonCommand_told told (sameSimulation.trans live)
    "/initiolises" jsonPayload true
  have sent : ∃ after, exec (Session.sendJsonCommand world "/initiolises" jsonPayload true)
      between = (.error (.kraApi e), after) :=
    ⟨_, by rw [Session.sendJsonCommand, exec_transmit, sameCalls, answered, threw]⟩
  obtain ⟨after, sent⟩ := sent
  have activating : exec (activate world activation) between = (.error (.kraApi e), after) :=
    exec_bind_error sent
  obtain ⟨thrown, throws⟩ := exec_recover_throws activation raw notXml after
  rw [activating] at ended
  exact absurd (throws.symm.trans ended) (by simp)

end Recovery

/-! ## A till that was activated before -/

def refusedBody : String :=
  "\x7b\"resultCd\":\"41\",\"resultMsg\":\"Device KRACU0100000001 is already activated\"\x7d"

def refusedJson : Value :=
  .arr [(.str "resultCd", .str "41"),
    (.str "resultMsg", .str "Device KRACU0100000001 is already activated")]

/-- KRA refuses an activation of the first shop's till. -/
def refusingWorld : World :=
  { Client.offlineWorld with
    jsonDecode := fun body => if body = refusedBody then some refusedJson else none
    transport := fun _ => .answered ⟨200, refusedBody⟩ }

def shopSession : Session id :=
  ⟨⟨TransactionsTable.empty id, [], KraApi.sandbox⟩, Access.twoShops, []⟩

def tillActivation : Entries :=
  [(.str "taxpayerPin", .str Access.shopOwner.pin), (.str "branchOfficeId", .str "00"),
    (.str "deviceType", .str "OSCU"), (.str "dvcSrlNo", .str "SN-1")]

theorem refusingWorld_tells :
    TellsActivated refusingWorld ⟨200, refusedBody⟩ Access.shopTill.kraScuId :=
  have decoded : refusingWorld.jsonDecode refusedBody = some refusedJson := by
    simp [refusingWorld]
  ⟨refusedJson, "Device KRACU0100000001 is already activated", decoded, rfl, rfl,
    ⟨[], [], by decide +kernel⟩⟩

theorem activation_never_recovered_shopTill :
    Access.shopTill ∈ shopSession.tenants.kraDevices ∧
      ¬ Recovered Access.shopTill shopSession
        (exec (initializeDevice refusingWorld tillActivation) shopSession) :=
  have accepted : readActivation shopSession.tenants (.arr tillActivation) =
      .ok ⟨Access.shopOwner, .str "00", .str "OSCU", .str "SN-1"⟩ := by rfl
  ⟨Access.shopTill_owned.isDevice,
    activation_never_recovered (fun _ _ _ => rfl) rfl accepted rfl refusingWorld_tells⟩

/-- The parser's exception is all that comes back. -/
theorem refused_shopTill_throws :
    Access.shopTill ∈ shopSession.tenants.kraDevices ∧
      TellsActivated refusingWorld ⟨200, refusedBody⟩ Access.shopTill.kraScuId ∧
      ¬ Recovered Access.shopTill shopSession
        (exec (initializeDevice refusingWorld tillActivation) shopSession) := by
  refine ⟨Access.shopTill_owned.isDevice, refusingWorld_tells, ?_⟩
  intro recovered
  obtain ⟨returned, ended, -⟩ := recovered
  have threw : (exec (initializeDevice refusingWorld tillActivation) shopSession).1 =
      .error (.php (.exception "simplexml_load_string(): parser error")) := by rfl
  rw [threw] at ended
  contradiction

end TaxGateway.Devices
