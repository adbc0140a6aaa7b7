import TaxGateway.Database.Schema

/-!
Contract: who owns which device, and who may act for whom, as the database
stores it.

Owns:
- what a value bound to a query is compared with;
- the rows of `taxpayer_pins`, `kra_devices` and `api_clients`;
- the tables with their keys: unique ids, unique PINs, unique SCU ids, no device
  without its taxpayer;
- both stores of permission, the `allowed_taxpayer_pins` text of a client and
  its rows of `api_client_taxpayer_pin`;
- the device lookup all endpoints share, `where('id', …)->whereHas(…)->first()`;
- a database with one device taken out, put in or changed.

Does not own: which condition an endpoint puts on the device's taxpayer.
-/

namespace TaxGateway.Database

open TaxGateway.Php

/-! ## Bindings -/

mutual

/-- The first scalar of a value, arrays searched in order. -/
def firstScalar : Value → Option Value
  | .arr entries => firstScalarOf entries
  | .null => some .null
  | .bool flag => some (.bool flag)
  | .num value => some (.num value)
  | .str text => some (.str text)

def firstScalarOf : List (Key × Value) → Option Value
  | [] => none
  | entry :: rest => (firstScalarAt entry).or (firstScalarOf rest)

def firstScalarAt : Key × Value → Option Value
  | (_, value) => firstScalar value

end

/-- A scalar as a query compares a text column with it: a number as its text, a
truth value as `0` or `1`. Nothing is equal to `null`. -/
def scalarText : Value → Option String
  | .str text => some text
  | .num number => some (numberText number)
  | .bool flag => some (if flag then "1" else "0")
  | .null | .arr _ => none

/-- What `where(column, $value)` compares a text column with: of an array its
first scalar, or `false` when it has none. -/
def bindingText : Value → Option String
  | .arr entries => scalarText ((firstScalarOf entries).getD (.bool false))
  | value => scalarText value

/-! ## Rows -/

/-- A row of `taxpayer_pins`. -/
structure TaxpayerPin where
  id : String
  pin : String
deriving DecidableEq

inductive DeviceStatus where
  | PENDING
  | ACTIVATED
  | UNAVAILABLE
  | ERROR
deriving DecidableEq, Repr

/-- A row of `kra_devices`. -/
structure KraDeviceRow where
  id : String
  taxpayerPinId : String
  kraScuId : String
  deviceType : String
  status : DeviceStatus
  config : Value
  lastStatusCheckAt : Option DateTime

/-- A row of `api_clients`. -/
structure ApiClient where
  id : String
  isActive : Bool
  allowedTaxpayerPins : Option String

/-- The tables. A pair of `apiClientTaxpayerPin` is a client's id and a
taxpayer's. -/
structure Tenants where
  taxpayerPins : List TaxpayerPin
  kraDevices : List KraDeviceRow
  apiClientTaxpayerPin : List (String × String)
  uniqueTaxpayerId : (taxpayerPins.map TaxpayerPin.id).Nodup
  uniquePin : (taxpayerPins.map TaxpayerPin.pin).Nodup
  uniqueDeviceId : (kraDevices.map KraDeviceRow.id).Nodup
  uniqueKraScuId : (kraDevices.map KraDeviceRow.kraScuId).Nodup
  ownerExists : ∀ device ∈ kraDevices, device.taxpayerPinId ∈ taxpayerPins.map TaxpayerPin.id

namespace Tenants

variable (database : Tenants)

/-- The taxpayers whose rows link them to the client: `$apiClient->taxpayerPins()`. -/
def linkedPins (client : ApiClient) : List TaxpayerPin :=
  database.taxpayerPins.filter fun taxpayer =>
    database.apiClientTaxpayerPin.contains (client.id, taxpayer.id)

/-- `KraDevice::where('id', $id)->whereHas('taxpayerPin', …)->first()`. A `null`
id is equal to none. -/
def findDevice (id : Option String) (allowed : KraDeviceRow → TaxpayerPin → Bool) :
    Option KraDeviceRow :=
  database.kraDevices.find? fun device =>
    id = some device.id && database.taxpayerPins.any fun taxpayer =>
      device.taxpayerPinId = taxpayer.id && allowed device taxpayer

/-- A stored device and its taxpayer. -/
structure Owns (owner : TaxpayerPin) (device : KraDeviceRow) : Prop where
  isDevice : device ∈ database.kraDevices
  isTaxpayer : owner ∈ database.taxpayerPins
  belongs : device.taxpayerPinId = owner.id

/-- The device as the services read it. -/
def kraDevice (device : KraDeviceRow) : KraDevice where
  id := device.id
  taxpayerPinId := device.taxpayerPinId
  deviceType := device.deviceType
  config := device.config
  taxpayerPin := (database.taxpayerPins.find? fun taxpayer =>
    taxpayer.id = device.taxpayerPinId).map TaxpayerPin.pin

end Tenants

/-! ## Owners -/

namespace Tenants

variable {database : Tenants}

theorem exists_owner {device : KraDeviceRow} (isDevice : device ∈ database.kraDevices) :
    ∃ owner, database.Owns owner device := by
  obtain ⟨owner, isTaxpayer, same⟩ :=
    List.mem_map.mp (database.ownerExists device isDevice)
  exact ⟨owner, isDevice, isTaxpayer, same.symm⟩

theorem Owns.unique {owner other : TaxpayerPin} {device : KraDeviceRow}
    (owns : database.Owns owner device) (owns' : database.Owns other device) :
    owner = other :=
  List.inj_on_of_nodup_map database.uniqueTaxpayerId owns.isTaxpayer owns'.isTaxpayer
    (owns.belongs.symm.trans owns'.belongs)

/-- The model of a stored device has its taxpayer's PIN. -/
theorem Owns.pin {owner : TaxpayerPin} {device : KraDeviceRow}
    (owns : database.Owns owner device) :
    (database.kraDevice device).taxpayerPin = some owner.pin := by
  simp only [kraDevice]
  cases found : database.taxpayerPins.find? fun taxpayer =>
      taxpayer.id = device.taxpayerPinId with
  | none =>
      have missing := List.find?_eq_none.mp found owner owns.isTaxpayer
      simp [owns.belongs] at missing
  | some other =>
      have same : other.id = device.taxpayerPinId := by simpa using List.find?_some found
      have isOwner : other = owner :=
        List.inj_on_of_nodup_map database.uniqueTaxpayerId (List.mem_of_find?_eq_some found)
          owns.isTaxpayer (same.trans owns.belongs)
      rw [isOwner]
      rfl

/-! ## The lookup -/

/-- The condition on the taxpayer is asked of the owner alone. -/
theorem any_owner {owner : TaxpayerPin} {device : KraDeviceRow}
    (owns : database.Owns owner device) (allowed : KraDeviceRow → TaxpayerPin → Bool) :
    (database.taxpayerPins.any fun taxpayer =>
      device.taxpayerPinId = taxpayer.id && allowed device taxpayer) =
        allowed device owner := by
  rw [Bool.eq_iff_iff, List.any_eq_true]
  constructor
  · rintro ⟨taxpayer, isTaxpayer, both⟩
    simp only [Bool.and_eq_true, decide_eq_true_eq] at both
    obtain rfl := owns.unique ⟨owns.isDevice, isTaxpayer, both.1⟩
    exact both.2
  · intro isAllowed
    exact ⟨owner, owns.isTaxpayer, by simp [owns.belongs, isAllowed]⟩

/-- A lookup by a stored device's id finds that device, if its owner is allowed. -/
theorem findDevice_of_owns {owner : TaxpayerPin} {device : KraDeviceRow}
    (owns : database.Owns owner device) (allowed : KraDeviceRow → TaxpayerPin → Bool) :
    database.findDevice (some device.id) allowed =
      if allowed device owner then some device else none := by
  unfold findDevice
  cases found : database.kraDevices.find? _ with
  | none =>
      have missing := List.find?_eq_none.mp found device owns.isDevice
      rw [any_owner owns] at missing
      have refused : allowed device owner = false := by simpa using missing
      rw [refused]
      rfl
  | some other =>
      have isOther := List.mem_of_find?_eq_some found
      have holds := List.find?_some found
      rw [Bool.and_eq_true] at holds
      have same : other = device :=
        List.inj_on_of_nodup_map database.uniqueDeviceId isOther owns.isDevice
          (Option.some.inj (of_decide_eq_true holds.1)).symm
      subst same
      have isAllowed : allowed other owner = true := by
        rw [← any_owner owns allowed]
        exact holds.2
      rw [isAllowed]
      rfl

/-- What a lookup finds is stored under the id, and its owner is allowed. -/
theorem findDevice_eq_some {id : Option String}
    {allowed : KraDeviceRow → TaxpayerPin → Bool} {device : KraDeviceRow}
    (found : database.findDevice id allowed = some device) :
    id = some device.id ∧ ∃ owner, database.Owns owner device ∧
      allowed device owner = true := by
  have isDevice := List.mem_of_find?_eq_some found
  have holds := List.find?_some found
  rw [Bool.and_eq_true] at holds
  obtain ⟨owner, owns⟩ := exists_owner isDevice
  refine ⟨of_decide_eq_true holds.1, owner, owns, ?_⟩
  rw [← any_owner owns allowed]
  exact holds.2

theorem findDevice_of_absent {id : String}
    (absent : ∀ device ∈ database.kraDevices, device.id ≠ id)
    (allowed : KraDeviceRow → TaxpayerPin → Bool) :
    database.findDevice (some id) allowed = none := by
  refine List.find?_eq_none.mpr ?_
  intro device isDevice
  have different : id ≠ device.id := fun same => absent device isDevice same.symm
  simp [different]

/-! ## A device taken out -/

/-- The same database without the device of an id. -/
def withoutDevice (database : Tenants) (id : String) : Tenants where
  taxpayerPins := database.taxpayerPins
  kraDevices := database.kraDevices.filter fun device => device.id ≠ id
  apiClientTaxpayerPin := database.apiClientTaxpayerPin
  uniqueTaxpayerId := database.uniqueTaxpayerId
  uniquePin := database.uniquePin
  uniqueDeviceId := database.uniqueDeviceId.sublist (List.Sublist.map _ List.filter_sublist)
  uniqueKraScuId := database.uniqueKraScuId.sublist (List.Sublist.map _ List.filter_sublist)
  ownerExists := fun device member =>
    database.ownerExists device (List.mem_filter.mp member).1

theorem absent_withoutDevice (id : String) :
    ∀ device ∈ (database.withoutDevice id).kraDevices, device.id ≠ id := by
  intro device member
  simpa using (List.mem_filter.mp member).2

/-! ## A device written -/

/-- `INSERT INTO kra_devices`: refused by the keys, by the enumeration of device
types and by the width of `kra_scu_id`. -/
def insertDevice (database : Tenants) (device : KraDeviceRow) : Except Throwable Tenants :=
  if fits : device.kraScuId.length ≤ 255 ∧ ["OSCU", "VSCU"].contains device.deviceType then
    if fresh : device.id ∉ database.kraDevices.map KraDeviceRow.id ∧
        device.kraScuId ∉ database.kraDevices.map KraDeviceRow.kraScuId ∧
        device.taxpayerPinId ∈ database.taxpayerPins.map TaxpayerPin.id then
      .ok
        { database with
          kraDevices := database.kraDevices ++ [device]
          uniqueDeviceId := by
            rw [List.map_append]
            exact List.nodup_append.mpr ⟨database.uniqueDeviceId, by simp, by
              rintro _ isStored _ isNew rfl
              exact fresh.1 (List.mem_singleton.mp isNew ▸ isStored)⟩
          uniqueKraScuId := by
            rw [List.map_append]
            exact List.nodup_append.mpr ⟨database.uniqueKraScuId, by simp, by
              rintro _ isStored _ isNew rfl
              exact fresh.2.1 (List.mem_singleton.mp isNew ▸ isStored)⟩
          ownerExists := by
            intro stored member
            rcases List.mem_append.mp member with isOld | isNew
            · exact database.ownerExists stored isOld
            · rw [List.mem_singleton.mp isNew]
              exact fresh.2.2 }
    else .error (.exception "SQLSTATE[23000]: Integrity constraint violation")
  else .error (.exception "SQLSTATE[22001]: Data too long or truncated for column")

/-- `UPDATE kra_devices SET … WHERE id = $id`, of columns that are no keys. -/
def updateDevice (database : Tenants) (id : String) (change : KraDeviceRow → KraDeviceRow)
    (keepsKeys : ∀ row, (change row).id = row.id ∧ (change row).kraScuId = row.kraScuId ∧
      (change row).taxpayerPinId = row.taxpayerPinId) : Tenants :=
  let update := fun row : KraDeviceRow => if row.id = id then change row else row
  have sameKeys : ∀ row, (update row).id = row.id ∧ (update row).kraScuId = row.kraScuId ∧
      (update row).taxpayerPinId = row.taxpayerPinId := by
    intro row
    by_cases isRow : row.id = id
    · simpa only [update, isRow, if_true] using keepsKeys row
    · simp [update, isRow]
  { database with
    kraDevices := database.kraDevices.map update
    uniqueDeviceId := by
      rw [List.map_map, show KraDeviceRow.id ∘ update = KraDeviceRow.id from
        funext fun row => (sameKeys row).1]
      exact database.uniqueDeviceId
    uniqueKraScuId := by
      rw [List.map_map, show KraDeviceRow.kraScuId ∘ update = KraDeviceRow.kraScuId from
        funext fun row => (sameKeys row).2.1]
      exact database.uniqueKraScuId
    ownerExists := by
      intro device member
      obtain ⟨row, isRow, rfl⟩ := List.mem_map.mp member
      rw [(sameKeys row).2.2]
      exact database.ownerExists row isRow }

end Tenants

end TaxGateway.Database
