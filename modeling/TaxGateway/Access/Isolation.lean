import TaxGateway.Access.Permissions

/-!
Contract: what a client can learn about a device of a taxpayer it may not act
for.

Owns:
- the replies to a request that names such a device, next to those to the same
  request when the device does not exist;
- the exact condition under which they are the same.

Does not own: timing, logs, or what a service answers.
-/

namespace TaxGateway.Access

open TaxGateway.Php
open TaxGateway.Validation
open TaxGateway.Database
open TaxGateway.Http

/-- A stored device of a taxpayer the client may not act for, by either store. -/
structure Foreign (database : Tenants) (client : ApiClient) (owner : TaxpayerPin)
    (device : KraDeviceRow) : Prop where
  owns : database.Owns owner device
  unlisted : owner.pin ∉ allowedPins client
  unlinked : owner ∉ database.linkedPins client

/-! ## Form requests -/

section Forms

variable {database : Tenants} {client : ApiClient} {owner : TaxpayerPin}
  {device : KraDeviceRow} {gatewayDeviceId : Value}

theorem activeClient_of_inactive (inactive : ¬ client.isActive = true) :
    activeClient (some client) = none := by
  simp [activeClient, inactive]

/-- Nobody may register an item on a foreign device. -/
theorem registerItem_refused (foreign : Foreign database client owner device)
    (named : boundText gatewayDeviceId = some device.id) (taxpayerPin : Value) :
    RegisterKraItemRequest.authorize database (some client) gatewayDeviceId taxpayerPin =
      .ok none := by
  by_cases active : client.isActive = true
  · rw [RegisterKraItemRequest.authorize_of_owns active foreign.owns named]
    exact if_neg fun both => foreign.unlinked both.2
  · rw [RegisterKraItemRequest.authorize, activeClient_of_inactive active]

theorem sendMovement_refused (foreign : Foreign database client owner device)
    (named : boundText gatewayDeviceId = some device.id) (taxpayerPin : Value) :
    SendKraInventoryMovementRequest.authorize database (some client) gatewayDeviceId
      taxpayerPin = .ok none := by
  by_cases active : client.isActive = true
  · rw [SendKraInventoryMovementRequest.authorize_of_owns active foreign.owns named]
    exact if_neg fun all => foreign.unlinked all.2.2
  · rw [SendKraInventoryMovementRequest.authorize, activeClient_of_inactive active]

/-- Where no device has the id, every form request is refused. -/
theorem refused_of_absent (client : ApiClient)
    (absent : ∀ stored ∈ database.kraDevices, stored.id ≠ device.id)
    (named : boundText gatewayDeviceId = some device.id) (taxpayerPin : Value) :
    RegisterKraItemRequest.authorize database (some client) gatewayDeviceId taxpayerPin =
        .ok none ∧
      SendKraInventoryMovementRequest.authorize database (some client) gatewayDeviceId
        taxpayerPin = .ok none ∧
      ProcessTransactionRequest.authorize database (some client) gatewayDeviceId
        taxpayerPin = .ok none := by
  have noLinked : ∀ other, linkedDeviceOfPin database gatewayDeviceId taxpayerPin other =
      none := by
    intro other
    rw [linkedDeviceOfPin, named, Tenants.findDevice_of_absent absent]
  have noDevice : deviceOfPin database gatewayDeviceId taxpayerPin = none := by
    rw [deviceOfPin, named, Tenants.findDevice_of_absent absent]
  refine ⟨?_, ?_, ?_⟩
  · rw [RegisterKraItemRequest.authorize]
    split
    next => rfl
    next => simp [noLinked]
  · rw [SendKraInventoryMovementRequest.authorize]
    split
    next => rfl
    next => simp [noLinked]
  · rw [ProcessTransactionRequest.authorize]
    split
    next => rfl
    next => simp [noDevice]

end Forms

/-! ## Queries -/

section Queries

variable (otherFailures : Endpoint → Entries → List Failure)

/-- The failures of a query that do not depend on the devices. -/
def pinAndOtherFailures (database : Tenants) (endpoint : Endpoint) (input : Entries) :
    List Failure :=
  (pinFailures database (read input "taxpayerPin")).map (("taxpayerPin", ·)) ++
    otherQueryFailures otherFailures endpoint input

theorem queryFailures_eq (database : Tenants) (endpoint : Endpoint) (input : Entries) :
    queryFailures otherFailures database endpoint input =
      (idFailures database (read input "gatewayDeviceId")).map (("gatewayDeviceId", ·)) ++
        pinAndOtherFailures otherFailures database endpoint input := by
  simp only [queryFailures, tenantFailures, pinAndOtherFailures, List.append_assoc]

/-- An id that is no UUID text is rejected without a look at the devices. -/
theorem idFailures_of_not_uuid {value : Option Value} {id : String}
    (named : boundText (value.getD .null) = some id)
    (notUuid : ¬ (value = some (.str id) ∧ ProcessTransactionRequest.isUuid id = true)) :
    ∃ failure, ∀ database, idFailures database value = [failure] := by
  by_cases missing : isMissing value = true
  · refine ⟨"Required", ?_⟩
    intro database
    unfold idFailures
    exact if_pos missing
  · refine ⟨"Uuid", ?_⟩
    intro database
    unfold idFailures
    rw [if_neg missing]
    split
    next text =>
      have same : text = id := Option.some.inj named
      subst same
      have invalid : ProcessTransactionRequest.isUuid text = false := by
        rw [← Bool.not_eq_true]
        exact fun valid => notUuid ⟨rfl, valid⟩
      rw [invalid]
      rfl
    next => rfl

/-- The id of a device that is a UUID text passes exactly when it is stored. -/
theorem idFailures_of_uuid {id : String}
    (valid : ProcessTransactionRequest.isUuid id = true) (database : Tenants) :
    idFailures database (some (.str id)) =
      if database.kraDevices.any fun device => device.id = id then [] else ["Exists"] := by
  have given : ¬ isMissing (some (.str id)) = true := by
    simp [isMissing, passes, Rule.holds]
  unfold idFailures
  rw [if_neg given]
  simp only [valid, Bool.not_true, Bool.false_eq_true, if_false]

end Queries

/-! ## Both -/

/-- A request that tells a foreign device from none: a query with its UUID, or a
sale under its owner's PIN when that is loosely listed. -/
def TellsApart (client : ApiClient) (endpoint : Endpoint) (request : Request)
    (owner : TaxpayerPin) (device : KraDeviceRow) : Prop :=
  endpoint.isQuery = true ∧
      (read request.input "gatewayDeviceId" = some (.str device.id) ∧
        ProcessTransactionRequest.isUuid device.id = true) ∨
    endpoint = .processTransaction ∧ client.isActive = true ∧
      inArray (request.value "taxpayerPin") (allowedPins client) = true ∧
      boundText (request.value "taxpayerPin") = some owner.pin

section Replies

variable {otherFailures : Endpoint → Entries → List Failure} {database : Tenants}
  {client : ApiClient} {endpoint : Endpoint} {request : Request} {owner : TaxpayerPin}
  {device : KraDeviceRow}

/-- No query is served on a foreign device, and none on a missing one. -/
theorem allowedDevice_of_foreign (foreign : Foreign database client owner device)
    {gatewayDeviceId : Value} (named : boundText gatewayDeviceId = some device.id) :
    allowedDevice database gatewayDeviceId client = none ∧
      allowedDevice (database.withoutDevice device.id) gatewayDeviceId client = none := by
  refine ⟨?_, ?_⟩
  · rw [allowedDevice_of_owns foreign.owns named, if_neg foreign.unlisted]
  · rw [allowedDevice, named,
      Tenants.findDevice_of_absent (Tenants.absent_withoutDevice device.id)]

/-- A query replies the same unless it names the device by its UUID. -/
theorem queryReply_eq_iff (foreign : Foreign database client owner device)
    (named : boundText (request.value "gatewayDeviceId") = some device.id) :
    queryReply otherFailures database client endpoint request =
        queryReply otherFailures (database.withoutDevice device.id) client endpoint request ↔
      ¬ (read request.input "gatewayDeviceId" = some (.str device.id) ∧
        ProcessTransactionRequest.isUuid device.id = true) := by
  obtain ⟨notFound, notFound'⟩ := allowedDevice_of_foreign foreign named
  have others : pinAndOtherFailures otherFailures (database.withoutDevice device.id) endpoint
      request.input = pinAndOtherFailures otherFailures database endpoint request.input := rfl
  unfold queryReply
  simp only [queryFailures_eq, notFound, notFound', others]
  constructor
  · rintro same ⟨given, valid⟩
    have isStored : (database.kraDevices.any fun stored => stored.id = device.id) = true :=
      List.any_eq_true.mpr ⟨device, foreign.owns.isDevice, by simp⟩
    have isAbsent : ((database.withoutDevice device.id).kraDevices.any fun stored =>
        stored.id = device.id) = false := by
      rw [List.any_eq_false]
      intro stored member
      simpa using Tenants.absent_withoutDevice device.id stored member
    rw [given, idFailures_of_uuid valid, idFailures_of_uuid valid, isStored, isAbsent] at same
    cases rest : pinAndOtherFailures otherFailures database endpoint request.input with
    | nil => simp [rest] at same
    | cons failure failures =>
        simp only [rest] at same
        have lists := congrArg (fun answer => match answer with
          | Reply.unprocessable failures => failures.length
          | _ => 0) same
        simp at lists
  · intro notUuid
    obtain ⟨failure, always⟩ := idFailures_of_not_uuid named notUuid
    rw [always, always]

/-- A sale replies the same unless its PIN is the device's and loosely listed. -/
theorem sale_reply_eq_iff (foreign : Foreign database client owner device)
    (named : boundText (request.value "gatewayDeviceId") = some device.id) :
    reply otherFailures database client .processTransaction request =
        reply otherFailures (database.withoutDevice device.id) client .processTransaction
          request ↔
      ¬ (client.isActive = true ∧
        inArray (request.value "taxpayerPin") (allowedPins client) = true ∧
        boundText (request.value "taxpayerPin") = some owner.pin) := by
  have absent := @Tenants.absent_withoutDevice database device.id
  have refused := (refused_of_absent client absent named (request.value "taxpayerPin")).2.2
  simp only [reply, refused]
  by_cases active : client.isActive = true
  · rw [ProcessTransactionRequest.authorize_of_owns active foreign.owns named]
    by_cases both : inArray (request.value "taxpayerPin") (allowedPins client) = true ∧
        boundText (request.value "taxpayerPin") = some owner.pin
    · rw [if_pos both]
      constructor
      · intro same
        by_cases activated : device.status = .ACTIVATED
        · rw [if_pos activated] at same
          simp only [formReply] at same
          split at same <;> contradiction
        · rw [if_neg activated] at same
          simp [formReply, Throwable.message] at same
      · intro notBoth
        exact absurd ⟨active, both⟩ notBoth
    · rw [if_neg both]
      exact iff_of_true rfl fun all => both all.2
  · rw [ProcessTransactionRequest.authorize, activeClient_of_inactive active]
    exact iff_of_true rfl fun all => active all.1

/-- A request that names a foreign device gets the reply it would get if the
device did not exist, unless it is one of those that tell the two apart. -/
theorem same_reply_iff (foreign : Foreign database client owner device)
    (named : namedDevice endpoint request = some device.id)
    (otherFailures : Endpoint → Entries → List Failure) :
    reply otherFailures database client endpoint request =
        reply otherFailures (database.withoutDevice device.id) client endpoint request ↔
      ¬ TellsApart client endpoint request owner device := by
  have absent := @Tenants.absent_withoutDevice database device.id
  cases endpoint with
  | deviceStatus =>
      have path : boundText (.str request.path) = some device.id := named
      obtain ⟨notFound, notFound'⟩ := allowedDevice_of_foreign foreign path
      simp [reply, notFound, notFound', TellsApart, Endpoint.isQuery]
  | registerItem =>
      have refused := registerItem_refused foreign named (request.value "taxpayerPin")
      have refused' := (refused_of_absent client absent named
        (request.value "taxpayerPin")).1
      simp [reply, refused, refused', formReply, TellsApart, Endpoint.isQuery]
  | sendPurchase =>
      have refused := registerItem_refused foreign named (request.value "taxpayerPin")
      have refused' := (refused_of_absent client absent named
        (request.value "taxpayerPin")).1
      simp [reply, SendKraPurchaseRequest.authorize_eq, refused, refused', formReply,
        TellsApart, Endpoint.isQuery]
  | sendMovement =>
      have refused := sendMovement_refused foreign named (request.value "taxpayerPin")
      have refused' := (refused_of_absent client absent named
        (request.value "taxpayerPin")).2.1
      simp [reply, refused, refused', formReply, TellsApart, Endpoint.isQuery]
  | processTransaction =>
      rw [sale_reply_eq_iff foreign named]
      simp [TellsApart, Endpoint.isQuery]
  | getItems | getPurchases | xDailyReport | zDailyReport | pluReport =>
      rw [reply_of_isQuery otherFailures rfl, reply_of_isQuery otherFailures rfl,
        queryReply_eq_iff foreign named]
      simp [TellsApart, Endpoint.isQuery]

end Replies

/-! ## A foreign till -/

theorem numberedTill_foreign :
    Foreign twoShops (clientOf "1" "P051234567X") numberedOwner numberedTill := by
  refine ⟨numberedTill_owned, by decide +kernel, ?_⟩
  intro linked
  exact absurd (List.mem_map_of_mem (f := TaxpayerPin.id) linked) (by decide +kernel)

/-- The theorem at an X report for the till of the other shop. -/
theorem same_reply_iff_xReport :
    reply (fun _ _ => []) twoShops (clientOf "1" "P051234567X") .xDailyReport
          (tillQuery numberedTill "P051234567X") =
        reply (fun _ _ => []) (twoShops.withoutDevice numberedTill.id)
          (clientOf "1" "P051234567X") .xDailyReport (tillQuery numberedTill "P051234567X") ↔
      ¬ TellsApart (clientOf "1" "P051234567X") .xDailyReport
        (tillQuery numberedTill "P051234567X") numberedOwner numberedTill :=
  same_reply_iff numberedTill_foreign (by decide +kernel) (fun _ _ => [])

/-- An X report for the till of the other shop is not found, and is rejected once
the till is gone. -/
theorem xReport_tells_foreign_till :
    reply (fun _ _ => []) twoShops (clientOf "1" "P051234567X") .xDailyReport
        (tillQuery numberedTill "P051234567X") ≠
      reply (fun _ _ => []) (twoShops.withoutDevice numberedTill.id)
        (clientOf "1" "P051234567X") .xDailyReport (tillQuery numberedTill "P051234567X") := by
  intro same
  have named : boundText ((tillQuery numberedTill "P051234567X").value "gatewayDeviceId") =
      some numberedTill.id := by decide +kernel
  rw [reply_of_isQuery _ rfl, reply_of_isQuery _ rfl,
    queryReply_eq_iff numberedTill_foreign named] at same
  exact same ⟨rfl, by decide +kernel⟩

end TaxGateway.Access
