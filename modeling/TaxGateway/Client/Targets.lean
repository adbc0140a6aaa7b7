import TaxGateway.Access.Permissions
import TaxGateway.Client.Calls

/-!
Contract: where the commands of the services go.

Owns:
- `KraApi::__construct`, which selects a base URL for the environment;
- the base URL a device's commands ought to go to, and the operations on a device;
- the configurations in which all operations go there.

Does not own: what a call does to the base URL it found.
-/

namespace TaxGateway.Client

open TaxGateway.Php
open TaxGateway.Database
open TaxGateway.Effects
open TaxGateway.Services
open TaxGateway.Services.Session

/-- The configuration: what the services read of it, and the client. -/
structure Environment extends KraConfig where
  appEnv : String
  apiProductionBaseUrl : String
  strictTimeoutMs : Nat
  defaultTimeoutMs : Nat
  simulation : Option (String → KraXml → Except Throwable HttpResponse)

/-- `KraApi::__construct`. -/
def Environment.construct (env : Environment) : KraApi where
  baseUrl :=
    if env.appEnv = "production" then env.apiProductionBaseUrl else env.apiSandboxBaseUrl
  strictTimeoutMs := env.strictTimeoutMs
  generalTimeoutMs := env.defaultTimeoutMs
  simulation := env.simulation

/-- Where the commands for a device ought to go: to a VSCU's own URL, or the
configured one; for an OSCU, to the URL selected for the environment. -/
def dueBaseUrl (env : Environment) (device : KraDeviceRow) : Except Throwable String :=
  if device.deviceType = "VSCU" then
    (device.config.coalesce "vscu_jar_url" (.str env.vscuJarBaseUrl)).toText
  else .ok env.construct.baseUrl

/-- A call that is about a stored device. -/
def OperatesOn (tenants : Tenants) (device : KraDeviceRow) : ServiceCall → Prop
  | .processTransaction kraDevice _ | .sendPurchase kraDevice _ | .getPurchases kraDevice
  | .sendInventoryMovement kraDevice _ | .getInventoryData kraDevice _
  | .registerItem kraDevice _ | .getItems kraDevice | .getXDailyReport kraDevice
  | .generateZDailyReport kraDevice | .getPLUReport kraDevice _ _ =>
      kraDevice = tenants.kraDevice device
  | .getDeviceStatus kraDevice => kraDevice = device
  | .initializeDevice _ => False

variable {collate : String → String}

/-- The commands of one call. -/
def sentBy (world : World) (session : Session collate) (call : ServiceCall) : List Call :=
  (leaves world session call).calls.drop session.calls.length

/-- A session that starts with a fresh client. -/
structure Fresh (env : Environment) (tenants : Tenants) (world : World)
    (session : Session collate) : Prop where
  config : world.config = env.toKraConfig
  tenants : session.tenants = tenants
  client : session.gateway.kraApi = env.construct

/-- Whatever is sent for a device goes where it ought to. -/
def OneTarget (collate : String → String) (env : Environment) (tenants : Tenants)
    (device : KraDeviceRow) : Prop :=
  ∀ world (session : Session collate) call, Fresh env tenants world session →
    OperatesOn tenants device call → ∀ sent ∈ sentBy world session call,
      .ok sent.baseUrl = dueBaseUrl env device

theorem sentBy_of_calls {world : World} {session : Session collate} {call : ServiceCall}
    {sent : List Call} (calls : (leaves world session call).calls = session.calls ++ sent) :
    sentBy world session call = sent := by
  rw [sentBy, calls, List.drop_left]

theorem sentBy_of_sendsTo {world : World} {session : Session collate} {call : ServiceCall}
    {url : Except Throwable String} (sends : SendsTo url session (leaves world session call)) :
    ∀ sent ∈ sentBy world session call, .ok sent.baseUrl = url := by
  obtain ⟨-, sent, calls, there⟩ := sends
  rw [sentBy_of_calls calls]
  exact there

/-- Where the commands of an operation go. Only the status check leaves the client as
it is for an OSCU. -/
theorem sentBy_target {env : Environment} {tenants : Tenants} {device : KraDeviceRow}
    {world : World} {session : Session collate} {call : ServiceCall}
    (fresh : Fresh env tenants world session) (operates : OperatesOn tenants device call) :
    (∀ sent ∈ sentBy world session call, .ok sent.baseUrl =
        KraSalesService.targetBaseUrl env.toKraConfig (tenants.kraDevice device)) ∨
      device.deviceType ≠ "VSCU" ∧
        ∀ sent ∈ sentBy world session call, sent.baseUrl = env.construct.baseUrl := by
  rw [← fresh.config]
  cases call with
  | processTransaction kraDevice transactionData =>
      obtain rfl : kraDevice = tenants.kraDevice device := operates
      obtain ⟨sent, calls, there⟩ := exists_sent_processTransaction session
      have isSent : sentBy world session (.processTransaction _ transactionData) = sent :=
        sentBy_of_calls calls
      rw [isSent]
      exact .inl there
  | initializeDevice data => exact operates.elim
  | getDeviceStatus kraDevice =>
      obtain rfl : kraDevice = device := operates
      have sends : SendsTo _ session (leaves world session (.getDeviceStatus kraDevice)) :=
        KraDeviceService.getDeviceStatus_sendsTo world kraDevice session
      have there := sentBy_of_sendsTo sends
      rw [KraDeviceService.statusBaseUrl, fresh.tenants] at there
      by_cases isVscu : kraDevice.deviceType = "VSCU"
      · rw [if_pos isVscu] at there
        exact .inl there
      · rw [if_neg isVscu] at there
        refine .inr ⟨isVscu, fun sent member => ?_⟩
        rw [Except.ok.inj (there sent member), ← fresh.client]
        rfl
  | _ => exact .inl (sentBy_of_sendsTo (leaves_sendsTo world session (congrArg some operates)))

/-- The targets of the services are the due ones, unless the environment selects
another URL than the sandbox. -/
theorem targetBaseUrl_eq_due {env : Environment} {tenants : Tenants} {device : KraDeviceRow}
    (agree : device.deviceType = "VSCU" ∨ env.construct.baseUrl = env.apiSandboxBaseUrl) :
    KraSalesService.targetBaseUrl env.toKraConfig (tenants.kraDevice device) =
      dueBaseUrl env device := by
  unfold KraSalesService.targetBaseUrl dueBaseUrl
  by_cases isVscu : device.deviceType = "VSCU"
  · rw [if_pos isVscu]
    exact if_pos isVscu
  · rw [if_neg isVscu, agree.resolve_left isVscu]
    exact if_neg isVscu

theorem construct_eq_sandbox_iff (env : Environment) :
    env.construct.baseUrl = env.apiSandboxBaseUrl ↔
      env.appEnv ≠ "production" ∨ env.apiProductionBaseUrl = env.apiSandboxBaseUrl := by
  unfold Environment.construct
  by_cases isProduction : env.appEnv = "production" <;> simp [isProduction]

/-- The item list asks once, at the target. -/
theorem calls_getItems {world : World} {session : Session collate} {kraDevice : KraDevice}
    {pin url : String} (hasPin : kraDevice.pin = .ok pin)
    (target : KraSalesService.targetBaseUrl world.config kraDevice = .ok url) :
    (leaves world session (.getItems kraDevice)).calls =
      session.calls ++ [⟨url, "/api/recvItem", .xml ⟨pin, "RECV_ITEM", []⟩, false⟩] := by
  have noData : buildKraXml pin "RECV_ITEM" [] = .ok ⟨pin, "RECV_ITEM", []⟩ := rfl
  show (exec (KraItemService.getItems world kraDevice) session).2.calls = _
  rw [KraItemService.getItems, hasPin, exec_raise_bind_ok, noData, exec_raise_bind_ok, target,
    withBaseUrl, Cell.exec_restoring_ok (exec_setBaseUrl_ok url session), exec_bind, sendCommand,
    exec_transmit]
  cases KraClient.sendCommand world.platform (baseUrl.put url session).gateway.kraApi
      "/api/recvItem" ⟨pin, "RECV_ITEM", []⟩ false
      fun _ => world.transport (baseUrl.put url session).calls.length with
  | error thrown => rfl
  | ok response =>
      dsimp only
      rw [exec_bind, parseXml]
      cases world.platform.simplexmlLoadString response.body <;> rfl

/-- All operations on a device go where they ought to exactly if it is a VSCU, or the
URL for the environment is the sandbox's. -/
theorem one_target_iff (env : Environment) (tenants : Tenants) (device : KraDeviceRow)
    (isStored : device ∈ tenants.kraDevices) :
    OneTarget collate env tenants device ↔
      device.deviceType = "VSCU" ∨ env.appEnv ≠ "production" ∨
        env.apiProductionBaseUrl = env.apiSandboxBaseUrl := by
  rw [← construct_eq_sandbox_iff]
  constructor
  · intro oneTarget
    by_cases isVscu : device.deviceType = "VSCU"
    · exact .inl isVscu
    · obtain ⟨owner, owns⟩ := Tenants.exists_owner isStored
      have hasPin : (tenants.kraDevice device).pin = .ok owner.pin := by
        rw [KraDevice.pin, owns.pin]
      let world : World := { offlineWorld with config := env.toKraConfig }
      let session : Session collate :=
        ⟨⟨TransactionsTable.empty collate, [], env.construct⟩, tenants, []⟩
      have target : KraSalesService.targetBaseUrl world.config (tenants.kraDevice device) =
          .ok env.apiSandboxBaseUrl := if_neg isVscu
      have asked : sentBy world session (.getItems (tenants.kraDevice device)) = _ :=
        sentBy_of_calls (calls_getItems hasPin target)
      have there := oneTarget world session (.getItems (tenants.kraDevice device))
        ⟨rfl, rfl, rfl⟩ rfl
      rw [asked, dueBaseUrl, if_neg isVscu] at there
      exact .inr (Except.ok.inj (there _ (List.mem_singleton_self _))).symm
  · intro agree world session call fresh operates sent member
    rcases sentBy_target fresh operates with toTarget | ⟨notVscu, toSelected⟩
    · rw [toTarget sent member, targetBaseUrl_eq_due agree]
    · rw [toSelected sent member, dueBaseUrl, if_neg notVscu]

/-! ## In production -/

/-- The configuration as shipped, in production. -/
def production : Environment where
  toKraConfig := offlineWorld.config
  appEnv := "production"
  apiProductionBaseUrl := "https://etims-api.kra.go.ke/etims-api/"
  strictTimeoutMs := 1000
  defaultTimeoutMs := 60000
  simulation := none

/-- The first shop's till, in sandbox and production. -/
theorem one_target_iff_shopTill :
    Access.shopTill ∈ Access.twoShops.kraDevices ∧
      (OneTarget id { production with appEnv := "local" } Access.twoShops Access.shopTill ↔ True) ∧
      (OneTarget id production Access.twoShops Access.shopTill ↔ False) := by
  have isStored : Access.shopTill ∈ Access.twoShops.kraDevices := Access.shopTill_owned.isDevice
  refine ⟨isStored, ?_, ?_⟩
  · exact (one_target_iff _ _ _ isStored).trans (by decide +kernel)
  · exact (one_target_iff _ _ _ isStored).trans (by decide +kernel)

/-- What goes out for the till when its status is checked and its items are listed. -/
def shopTillUrls (call : ServiceCall) : List String :=
  let session : Session id :=
    ⟨⟨TransactionsTable.empty id, [], production.construct⟩, Access.twoShops, []⟩
  (sentBy offlineWorld session call).map Call.baseUrl

/-- In production the status of the first shop's till is asked of KRA's production
server, its daily report of the sandbox. -/
theorem shopTill_two_targets :
    shopTillUrls (.getDeviceStatus Access.shopTill) =
        ["https://etims-api.kra.go.ke/etims-api/"] ∧
      shopTillUrls (.generateZDailyReport (Access.twoShops.kraDevice Access.shopTill)) =
        ["https://etims-api-sbx.kra.go.ke/etims-api/"] := by
  decide +kernel

end TaxGateway.Client
