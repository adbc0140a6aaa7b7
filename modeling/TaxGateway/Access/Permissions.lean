import TaxGateway.Http.Endpoints

/-!
Contract: for whom a client may act, as the endpoints decide it.

Owns:
- queries: the exact condition under which one acts on the taxpayer it names;
- the verdicts of all endpoints on one client, device and PIN, and the exact
  condition under which they are the same;
- sales: the exact condition under which only PINs spelled out in the client's
  list are admitted.

Does not own: what a client learns from a refusal.
-/

namespace TaxGateway.Access

open TaxGateway.Php
open TaxGateway.Validation
open TaxGateway.Database
open TaxGateway.Http

/-! ## Two shops -/

def shopOwner : TaxpayerPin := ⟨"1", "P051234567X"⟩

/-- A taxpayer whose PIN is a number. -/
def numberedOwner : TaxpayerPin := ⟨"2", "1000"⟩

def shopTill : KraDeviceRow :=
  ⟨"0f8fad5b-d9cb-469f-a165-70867728950e", "1", "KRACU0100000001", "OSCU", .ACTIVATED, .null,
    none⟩

def numberedTill : KraDeviceRow :=
  ⟨"7d444840-9dc0-11d1-b245-5ffdce74fad2", "2", "KRACU0100000002", "OSCU", .ACTIVATED, .null,
    none⟩

/-- Both shops with their tills; client `1` is linked to the first. -/
def twoShops : Tenants where
  taxpayerPins := [shopOwner, numberedOwner]
  kraDevices := [shopTill, numberedTill]
  apiClientTaxpayerPin := [("1", "1")]
  uniqueTaxpayerId := by decide
  uniquePin := by decide
  uniqueDeviceId := by decide
  uniqueKraScuId := by decide
  ownerExists := by
    intro device member
    simp only [List.mem_cons, List.not_mem_nil, or_false] at member
    rcases member with rfl | rfl <;> decide

/-- A client with a list of PINs. -/
def clientOf (id allowed : String) : ApiClient := ⟨id, true, some allowed⟩

def tillQuery (device : KraDeviceRow) (taxpayerPin : String) : Request :=
  ⟨"", [(.str "gatewayDeviceId", .str device.id), (.str "taxpayerPin", .str taxpayerPin)]⟩

theorem shopTill_owned : twoShops.Owns shopOwner shopTill :=
  ⟨by simp [twoShops], by simp [twoShops], rfl⟩

theorem numberedTill_owned : twoShops.Owns numberedOwner numberedTill :=
  ⟨by simp [twoShops], by simp [twoShops], rfl⟩

/-! ## Queries -/

section Queries

variable (otherFailures : Endpoint → Entries → List Failure)

/-- When the request is served, it acts on a device of the taxpayer it names,
who is one of the client's. -/
def ActsOnNamedTaxpayer (database : Tenants) (client : ApiClient) (endpoint : Endpoint)
    (request : Request) : Prop :=
  ∀ device, reply otherFailures database client endpoint request = .served device →
    ∃ owner, database.Owns owner device ∧
      read request.input "taxpayerPin" = some (.str owner.pin) ∧
      owner.pin ∈ allowedPins client

/-- A valid request that names a device of one of the client's taxpayers and the
PIN of another taxpayer. -/
def NamesAnotherTaxpayer (database : Tenants) (client : ApiClient) (endpoint : Endpoint)
    (request : Request) : Prop :=
  queryFailures otherFailures database endpoint request.input = [] ∧
    ∃ owner device, database.Owns owner device ∧
      namedDevice endpoint request = some device.id ∧ owner.pin ∈ allowedPins client ∧
      read request.input "taxpayerPin" ≠ some (.str owner.pin)

variable {otherFailures}

/-- The device a query names is the one in its input. -/
theorem namedDevice_of_isQuery {endpoint : Endpoint} (isQuery : endpoint.isQuery = true)
    (request : Request) :
    namedDevice endpoint request = boundText (request.value "gatewayDeviceId") := by
  cases endpoint with
  | getItems | getPurchases | xDailyReport | zDailyReport | pluReport => rfl
  | deviceStatus | registerItem | sendPurchase | sendMovement | processTransaction =>
      contradiction

theorem reply_eq_served_iff {endpoint : Endpoint} (isQuery : endpoint.isQuery = true)
    {database : Tenants} {client : ApiClient} {request : Request} {device : KraDeviceRow} :
    reply otherFailures database client endpoint request = .served device ↔
      queryFailures otherFailures database endpoint request.input = [] ∧
        allowedDevice database (request.value "gatewayDeviceId") client = some device := by
  rw [reply_of_isQuery otherFailures isQuery, queryReply_eq_served_iff]

/-- A query acts on the taxpayer it names unless it is a valid one that names
another taxpayer than that of its device. -/
theorem acts_on_named_taxpayer_iff {endpoint : Endpoint} (isQuery : endpoint.isQuery = true)
    (otherFailures : Endpoint → Entries → List Failure) (database : Tenants)
    (client : ApiClient) (request : Request) :
    ActsOnNamedTaxpayer otherFailures database client endpoint request ↔
      ¬ NamesAnotherTaxpayer otherFailures database client endpoint request := by
  constructor
  · intro acts another
    obtain ⟨valid, owner, device, owns, named, isAllowed, differs⟩ := another
    have served : reply otherFailures database client endpoint request = .served device := by
      rw [reply_eq_served_iff isQuery]
      rw [namedDevice_of_isQuery isQuery] at named
      exact ⟨valid, by rw [allowedDevice_of_owns owns named, if_pos isAllowed]⟩
    obtain ⟨other, owns', same, -⟩ := acts device served
    rw [owns.unique owns'] at differs
    exact differs same
  · intro noOther device served
    obtain ⟨valid, found⟩ := (reply_eq_served_iff isQuery).mp served
    obtain ⟨named, owner, owns, isAllowed⟩ := Tenants.findDevice_eq_some found
    have member : owner.pin ∈ allowedPins client := List.contains_iff_mem.mp isAllowed
    refine ⟨owner, owns, ?_, member⟩
    by_contra differs
    exact noOther ⟨valid, owner, device, owns,
      (namedDevice_of_isQuery isQuery request).trans named, member, differs⟩

end Queries

/-- The theorem at a Z report for the other shop. -/
theorem acts_on_named_taxpayer_iff_zReport :
    ActsOnNamedTaxpayer (fun _ _ => []) twoShops (clientOf "1" "P051234567X,1000")
        .zDailyReport (tillQuery shopTill "1000") ↔
      ¬ NamesAnotherTaxpayer (fun _ _ => []) twoShops (clientOf "1" "P051234567X,1000")
        .zDailyReport (tillQuery shopTill "1000") :=
  acts_on_named_taxpayer_iff rfl (fun _ _ => []) twoShops (clientOf "1" "P051234567X,1000")
    (tillQuery shopTill "1000")

/-- A Z report asked for one shop closes the day of the other. -/
theorem zReport_closes_other_shop :
    ¬ ActsOnNamedTaxpayer (fun _ _ => []) twoShops (clientOf "1" "P051234567X,1000")
        .zDailyReport (tillQuery shopTill "1000") := by
  intro acts
  have named : boundText ((tillQuery shopTill "1000").value "gatewayDeviceId") =
      some shopTill.id := by decide +kernel
  have found : allowedDevice twoShops ((tillQuery shopTill "1000").value "gatewayDeviceId")
      (clientOf "1" "P051234567X,1000") = some shopTill := by
    rw [allowedDevice_of_owns shopTill_owned named, if_pos (by decide +kernel)]
  have served : reply (fun _ _ => []) twoShops (clientOf "1" "P051234567X,1000")
      .zDailyReport (tillQuery shopTill "1000") = .served shopTill :=
    (reply_eq_served_iff rfl).mpr ⟨by decide +kernel, found⟩
  obtain ⟨owner, owns, requested, -⟩ := acts shopTill served
  rw [← shopTill_owned.unique owns] at requested
  have texts := congrArg (Option.map boundText) requested
  exact absurd texts (by decide +kernel)

/-! ## One client, one device, one PIN -/

/-- What decides on a client, a device and a PIN. -/
inductive Permission where
  | processTransaction
  | registerItem
  | sendPurchase
  | sendMovement
  | query
deriving DecidableEq, Repr

/-- A request was not refused for its client, PIN and device. The exception
thrown for a device that is not activated comes after that. -/
def admits : Authorization → Bool
  | .ok none => false
  | .ok (some _) | .error _ => true

def verdict (database : Tenants) (client : ApiClient) (device : KraDeviceRow)
    (taxpayerPin : String) : Permission → Bool
  | .processTransaction =>
      admits (ProcessTransactionRequest.authorize database (some client) (.str device.id)
        (.str taxpayerPin))
  | .registerItem =>
      admits (RegisterKraItemRequest.authorize database (some client) (.str device.id)
        (.str taxpayerPin))
  | .sendPurchase =>
      admits (SendKraPurchaseRequest.authorize database (some client) (.str device.id)
        (.str taxpayerPin))
  | .sendMovement =>
      admits (SendKraInventoryMovementRequest.authorize database (some client)
        (.str device.id) (.str taxpayerPin))
  | .query => (allowedDevice database (.str device.id) client).isSome

section Verdicts

variable {database : Tenants} {client : ApiClient} {owner : TaxpayerPin}
  {device : KraDeviceRow}

/-- Each permission in terms of the two stores. -/
theorem verdict_eq (active : client.isActive = true) (owns : database.Owns owner device)
    (taxpayerPin : String) (permission : Permission) :
    verdict database client device taxpayerPin permission =
      match permission with
      | .processTransaction =>
          decide (inArray (.str taxpayerPin) (allowedPins client) = true ∧
            taxpayerPin = owner.pin)
      | .registerItem | .sendPurchase =>
          decide (taxpayerPin = owner.pin ∧ owner ∈ database.linkedPins client)
      | .sendMovement =>
          decide (inArray (.str taxpayerPin) (allowedPins client) = true ∧
            taxpayerPin = owner.pin ∧ owner ∈ database.linkedPins client)
      | .query => decide (owner.pin ∈ allowedPins client) := by
  have named : boundText (.str device.id) = some device.id := rfl
  have bound : boundText (.str taxpayerPin) = some owner.pin ↔ taxpayerPin = owner.pin := by
    simp
  cases permission with
  | processTransaction =>
      simp only [verdict, ProcessTransactionRequest.authorize_of_owns active owns named,
        bound]
      split
      next holds =>
        rw [decide_eq_true holds]
        split <;> rfl
      next fails => rw [decide_eq_false fails]; rfl
  | registerItem =>
      simp only [verdict, RegisterKraItemRequest.authorize_of_owns active owns named, bound]
      split
      next holds => rw [decide_eq_true holds]; rfl
      next fails => rw [decide_eq_false fails]; rfl
  | sendPurchase =>
      simp only [verdict, SendKraPurchaseRequest.authorize_eq,
        RegisterKraItemRequest.authorize_of_owns active owns named, bound]
      split
      next holds => rw [decide_eq_true holds]; rfl
      next fails => rw [decide_eq_false fails]; rfl
  | sendMovement =>
      simp only [verdict, SendKraInventoryMovementRequest.authorize_of_owns active owns named,
        bound]
      split
      next holds => rw [decide_eq_true holds]; rfl
      next fails => rw [decide_eq_false fails]; rfl
  | query =>
      simp only [verdict, allowedDevice_of_owns owns named]
      split
      next holds => rw [decide_eq_true holds]; rfl
      next fails => rw [decide_eq_false fails]; rfl

/-- All permissions give one verdict on an active client, a device and a PIN,
exactly when the device is of another PIN, which the client's list does not
have, or of this PIN, and either the list has it and the client is linked to it,
or the list has nothing loosely equal to it and the client is not linked. -/
theorem one_verdict_iff (active : client.isActive = true)
    (owns : database.Owns owner device) (taxpayerPin : String) :
    (∀ first second, verdict database client device taxpayerPin first =
        verdict database client device taxpayerPin second) ↔
      owner.pin ≠ taxpayerPin ∧ owner.pin ∉ allowedPins client ∨
      owner.pin = taxpayerPin ∧
        (taxpayerPin ∈ allowedPins client ∧ owner ∈ database.linkedPins client ∨
          inArray (.str taxpayerPin) (allowedPins client) = false ∧
            owner ∉ database.linkedPins client) := by
  have eachVerdict := verdict_eq active owns taxpayerPin
  constructor
  · intro agree
    have saleItem := agree .processTransaction .registerItem
    have saleQuery := agree .processTransaction .query
    rw [eachVerdict, eachVerdict, decide_eq_decide] at saleItem saleQuery
    by_cases same : owner.pin = taxpayerPin
    · refine .inr ⟨same, ?_⟩
      rw [same] at saleItem saleQuery
      by_cases listed : taxpayerPin ∈ allowedPins client
      · have sale := saleQuery.mpr listed
        exact .inl ⟨listed, (saleItem.mp sale).2⟩
      · have noSale := fun sale => listed (saleQuery.mp sale)
        have notLoosely : inArray (.str taxpayerPin) (allowedPins client) = false := by
          rw [← Bool.not_eq_true]
          exact fun loosely => noSale ⟨loosely, rfl⟩
        exact .inr ⟨notLoosely, fun linked => noSale (saleItem.mpr ⟨rfl, linked⟩)⟩
    · refine .inl ⟨same, ?_⟩
      intro listed
      exact same (saleQuery.mpr listed).2.symm
  · intro condition first second
    have constant : ∃ common, ∀ permission,
        verdict database client device taxpayerPin permission = common := by
      rcases condition with ⟨differs, unlisted⟩ | ⟨same, ⟨listed, linked⟩ | ⟨notLoosely, unlinked⟩⟩
      · refine ⟨false, ?_⟩
        intro permission
        rw [eachVerdict]
        cases permission <;> simp [differs.symm, unlisted]
      · refine ⟨true, ?_⟩
        intro permission
        rw [eachVerdict]
        have loosely := inArray_of_mem listed
        cases permission <;> simp [loosely, same, linked, listed]
      · refine ⟨false, ?_⟩
        intro permission
        rw [eachVerdict]
        have unlisted : taxpayerPin ∉ allowedPins client := by
          intro listed
          rw [inArray_of_mem listed] at notLoosely
          contradiction
        cases permission <;> simp [notLoosely, same, unlinked, unlisted]
    obtain ⟨common, same⟩ := constant
    rw [same first, same second]

end Verdicts

/-- The theorem at the first shop and a client linked to it. -/
theorem one_verdict_iff_shop :
    (∀ first second,
        verdict twoShops (clientOf "1" "P051234567X") shopTill "P051234567X" first =
          verdict twoShops (clientOf "1" "P051234567X") shopTill "P051234567X" second) ↔
      shopOwner.pin ≠ "P051234567X" ∧
          shopOwner.pin ∉ allowedPins (clientOf "1" "P051234567X") ∨
        shopOwner.pin = "P051234567X" ∧
          ("P051234567X" ∈ allowedPins (clientOf "1" "P051234567X") ∧
              shopOwner ∈ twoShops.linkedPins (clientOf "1" "P051234567X") ∨
            inArray (.str "P051234567X") (allowedPins (clientOf "1" "P051234567X")) = false ∧
              shopOwner ∉ twoShops.linkedPins (clientOf "1" "P051234567X")) :=
  one_verdict_iff rfl shopTill_owned "P051234567X"

/-- A client that has the PIN in its list and no link may sell, and may not
register an item. -/
theorem unlinked_client_verdicts :
    ¬ ∀ first second,
      verdict twoShops (clientOf "2" "P051234567X") shopTill "P051234567X" first =
        verdict twoShops (clientOf "2" "P051234567X") shopTill "P051234567X" second := by
  intro agree
  exact absurd (agree .processTransaction .registerItem) (by decide +kernel)

/-! ## Sales -/

/-- A sale is admitted only for a PIN that is spelled out in the client's list. -/
def SalesExact (database : Tenants) (client : ApiClient)
    (gatewayDeviceId : Value) (taxpayerPin : String) : Prop :=
  ∀ device owner,
    ProcessTransactionRequest.authorize database (some client) gatewayDeviceId
      (.str taxpayerPin) = .ok (some device) →
    database.Owns owner device → owner.pin ∈ allowedPins client

/-- An entry of the client's list is loosely equal to the PIN, without any being
equal to it, and nothing else stands in the way of the sale. -/
def LooselyListed (database : Tenants) (client : ApiClient)
    (gatewayDeviceId : Value) (taxpayerPin : String) : Prop :=
  (taxpayerPin ∉ allowedPins client ∧
    ∃ entry ∈ allowedPins client, looseEqText taxpayerPin entry = true) ∧
  client.isActive = true ∧
    ∃ device owner, database.Owns owner device ∧
      boundText gatewayDeviceId = some device.id ∧ owner.pin = taxpayerPin ∧
      device.status = .ACTIVATED

/-- A sale that is let through is for a listed PIN, if the PIN is not only loosely
listed. -/
theorem salesExact_of_not_looselyListed {database : Tenants} {client : ApiClient}
    {gatewayDeviceId : Value} {taxpayerPin : String}
    (notLoosely : ¬ LooselyListed database client gatewayDeviceId taxpayerPin) :
    SalesExact database client gatewayDeviceId taxpayerPin := by
  intro device owner authorized owns
  by_contra unlisted
  obtain ⟨active, named⟩ := ProcessTransactionRequest.of_authorize_eq_some authorized
  rw [ProcessTransactionRequest.authorize_of_owns active owns named] at authorized
  split at authorized
  next both =>
    split at authorized
    next activated =>
      obtain ⟨entry, isEntry, loosely⟩ := List.any_eq_true.mp both.1
      have same : owner.pin = taxpayerPin := (Option.some.inj both.2).symm
      exact notLoosely ⟨⟨same ▸ unlisted, entry, isEntry, loosely⟩, active, device, owner,
        owns, named, same, activated⟩
    next => contradiction
  next => simp at authorized

/-- KRA's own PINs start with a letter and are no numbers: for these, and all
other PINs that are no numeric strings, sales are authorised exactly. -/
theorem salesExact_of_not_numeric {taxpayerPin : String}
    (plain : numericString taxpayerPin = none) (database : Tenants) (client : ApiClient)
    (gatewayDeviceId : Value) :
    SalesExact database client gatewayDeviceId taxpayerPin := by
  apply salesExact_of_not_looselyListed
  rintro ⟨⟨unlisted, entry, isEntry, loosely⟩, -⟩
  rw [looseEqText_of_not_numeric plain] at loosely
  rw [of_decide_eq_true loosely] at unlisted
  exact unlisted isEntry

/-- Sales are authorised exactly unless the PIN is only loosely listed. -/
theorem sales_exact_iff (database : Tenants) (client : ApiClient)
    (gatewayDeviceId : Value) (taxpayerPin : String) :
    SalesExact database client gatewayDeviceId taxpayerPin ↔
      ¬ LooselyListed database client gatewayDeviceId taxpayerPin := by
  constructor
  · rintro exact ⟨⟨unlisted, entry, isEntry, loosely⟩, active, device, owner, owns, named,
      rfl, activated⟩
    have isIn : inArray (.str owner.pin) (allowedPins client) = true :=
      List.any_eq_true.mpr ⟨entry, isEntry, loosely⟩
    have authorized : ProcessTransactionRequest.authorize database (some client)
        gatewayDeviceId (.str owner.pin) = .ok (some device) := by
      rw [ProcessTransactionRequest.authorize_of_owns active owns named,
        if_pos ⟨isIn, boundText_str owner.pin⟩, if_pos activated]
    exact unlisted (exact device owner authorized owns)
  · exact salesExact_of_not_looselyListed

/-- A client that may act for `1e3` sells as the taxpayer `1000`. -/
theorem numberedTill_sold_by_other :
    ¬ SalesExact twoShops (clientOf "1" "1e3") (.str numberedTill.id) "1000" := by
  intro exact
  have authorized : ProcessTransactionRequest.authorize twoShops (some (clientOf "1" "1e3"))
      (.str numberedTill.id) (.str "1000") = .ok (some numberedTill) := by
    rw [ProcessTransactionRequest.authorize_of_owns rfl numberedTill_owned rfl,
      if_pos (by decide +kernel)]
    exact if_pos rfl
  exact absurd (exact numberedTill numberedOwner authorized numberedTill_owned)
    (by decide +kernel)

end TaxGateway.Access
