import TaxGateway.Client.SentCommands

/-!
Contract: the quantity that `sendInventoryMovement` reports for an accepted request that
names the direction of the movement.

Owns:
- the `SEND_INVENTORY` payload of an accepted request, and that it is what is sent;
- the requests whose quantity is reported with the sign of their movement type.

Does not own: movements without a type, which another request sends.
-/

namespace TaxGateway.Client

open TaxGateway.Php
open TaxGateway.Validation
open TaxGateway.Database
open TaxGateway.Effects
open TaxGateway.Http
open TaxGateway.Services
open TaxGateway.Services.KraInventoryService
open TaxGateway.Services.Payloads
open TaxGateway.Services.Session

/-! ## Directions -/

/-- The quantity that a request gives. -/
def requestedQuantity (input : Entries) : ℚ :=
  ((read input "quantity").getD .null).toNumber.toOption.getD 0

/-- A stock-out is no stock-in, a stock-in no stock-out, and as much is moved as the
request gives. -/
structure KeepsDirection (input : Entries) (qty : ℚ) : Prop where
  out : read input "movementType" = some (.str "OUT") → qty ≤ 0
  into : read input "movementType" = some (.str "IN") → 0 ≤ qty
  amount : |qty| = |requestedQuantity input|

/-- The quantity "can be positive for stock in, negative for stock out". -/
def SignsByType (input : Entries) : Prop :=
  (read input "movementType" = some (.str "OUT") → requestedQuantity input ≤ 0) ∧
    (read input "movementType" = some (.str "IN") → 0 ≤ requestedQuantity input)

theorem keepsDirection_iff {input : Entries} {qty : ℚ} (same : qty = requestedQuantity input) :
    KeepsDirection input qty ↔ SignsByType input := by
  rw [same]
  constructor
  · intro keeps
    exact ⟨keeps.out, keeps.into⟩
  · intro signs
    exact ⟨signs.1, signs.2, rfl⟩

/-! ## The payload -/

section Accepted

variable {database : Tenants} {input : Entries}

/-- A required field of the request is in the data of the service. -/
theorem exists_index_validated
    (accepted : schemaPasses (SendKraInventoryRequest.rules database) input = true)
    {field : Field} (member : field ∈ SendKraInventoryRequest.fields)
    (required : Rule.required ∈ field.rules) :
    ∃ value, read input field.name = some value ∧ passes field.rules (some value) = true ∧
      (Value.arr (SendKraInventoryRequest.validated database input)).index field.name =
        some (SendKraInventoryRequest.changed field.name value) := by
  obtain ⟨value, given, notNull, passing⟩ :=
    SendKraInventoryRequest.exists_given accepted member required
  exact ⟨value, given, passing,
    SendKraInventoryRequest.index_validated member given notNull⟩

theorem isArray_changed {key : String} {value : Value} (scalar : value.isArray = false) :
    (SendKraInventoryRequest.changed key value).isArray = false := by
  unfold SendKraInventoryRequest.changed
  split_ifs with isQuantity isDate
  · rfl
  · unfold SendKraInventoryRequest.reformat
    split
    next => split <;> rfl
    next => exact scalar
  · exact scalar

/-- The data holds a value that can be written for each key that the rules vouch for. -/
theorem exists_offset_validated
    (accepted : schemaPasses (SendKraInventoryRequest.rules database) input = true)
    {key : String}
    (ruled : isRuled SendKraInventoryRequest.fields key [Rule.isRequired, Rule.isScalar] = true) :
    ∃ value, offset (.arr (SendKraInventoryRequest.validated database input)) key = .ok value ∧
      (Value.arr (SendKraInventoryRequest.validated database input)).index key = some value ∧
      value.isArray = false := by
  obtain ⟨rules, member, kinds⟩ := exists_field_of_isRuled ruled
  have required : Rule.required ∈ rules :=
    any_isRequired_iff.mp (kinds Rule.isRequired (by simp))
  obtain ⟨value, -, passing, kept⟩ := exists_index_validated accepted member required
  exact ⟨_, offset_eq_ok_of_index kept, kept,
    isArray_changed (isArray_of_passes passing (kinds Rule.isScalar (by simp)))⟩

/-- The value that the service's data gives for a key. -/
def givenValue (database : Tenants) (input : Entries) (key : String) : Value :=
  ((Value.arr (SendKraInventoryRequest.validated database input)).index key).getD .null

/-- The payload can be built, and no value of it is an array. -/
theorem payload_of_accepted
    (accepted : schemaPasses (SendKraInventoryRequest.rules database) input = true) :
    payload inventoryPayload (.arr (SendKraInventoryRequest.validated database input)) =
        .ok (writtenFields inventoryPayload (givenValue database input)) ∧
      ((writtenFields inventoryPayload (givenValue database input)).any
        fun child => child.2.isArray) = false := by
  have reads : ∀ field ∈ inventoryPayload,
      field.2.read (.arr (SendKraInventoryRequest.validated database input)) =
          .ok (field.2.written (givenValue database input)) ∧
        (field.2.written (givenValue database input)).isArray = false := by
    intro field member
    have isRequired : ∃ key, field.2 = .required key ∧
        isRuled SendKraInventoryRequest.fields key [Rule.isRequired, Rule.isScalar] = true := by
      simp only [inventoryPayload, List.mem_cons, List.not_mem_nil, or_false] at member
      rcases member with rfl | rfl | rfl | rfl | rfl
      · exact ⟨"branchId", rfl, by decide +kernel⟩
      · exact ⟨"itemClassificationCode", rfl, by decide +kernel⟩
      · exact ⟨"itemCode", rfl, by decide +kernel⟩
      · exact ⟨"quantity", rfl, by decide +kernel⟩
      · exact ⟨"updateDate", rfl, by decide +kernel⟩
    obtain ⟨key, source, ruled⟩ := isRequired
    obtain ⟨value, found, kept, scalar⟩ := exists_offset_validated accepted ruled
    have given : givenValue database input key = value := by
      rw [givenValue, kept]
      rfl
    rw [source, Source.read, Source.written, given]
    exact ⟨found, scalar⟩
  refine ⟨payload_eq_ok fun field member => (reads field member).1, ?_⟩
  rw [writtenFields, List.any_map, List.any_eq_false]
  intro field member
  simpa using (reads field member).2

/-- The quantity is reported as it was given. -/
theorem lookup_qty
    (accepted : schemaPasses (SendKraInventoryRequest.rules database) input = true) :
    (writtenFields inventoryPayload (givenValue database input)).lookup "qty" =
      some (.num (requestedQuantity input)) := by
  have isField : (⟨"quantity", [.required, .numeric]⟩ : Field) ∈
      SendKraInventoryRequest.fields := by
    simp [SendKraInventoryRequest.fields]
  obtain ⟨value, given, passing, kept⟩ :=
    exists_index_validated accepted isField (by simp)
  have numeric : value.isNumeric = true := by
    have notNull : value ≠ .null := by
      rintro rfl
      cases passing
    exact isNumeric_of_passes passing notNull (by simp)
  have requested : requestedQuantity input = SendKraInventoryRequest.toFloat value := by
    rw [requestedQuantity, given, Option.getD_some,
      SendKraInventoryRequest.toNumber_eq_toFloat numeric]
    rfl
  have isQuantity : givenValue database input "quantity" =
      .num (SendKraInventoryRequest.toFloat value) := by
    rw [givenValue, kept]
    rfl
  rw [requested, ← isQuantity]
  rfl

end Accepted

/-! ## The command -/

section Sending

variable {collate : String → String} {world : World} {session : Session collate}
  {kraDevice : KraDevice} {pin : String}

/-- One command with the payload is sent for a device with a PIN and a base URL. -/
theorem sends_payload (hasPin : kraDevice.pin = .ok pin) (hasUrl : HasBaseUrl kraDevice)
    {inventoryData : Entries} {values : List (String × Value)}
    (read : payload inventoryPayload (.arr inventoryData) = .ok values)
    (noArrays : (values.any fun child => child.2.isArray) = false) :
    ∃ url, (exec (sendInventoryMovement world kraDevice inventoryData) session).2.calls =
      session.calls ++
        [⟨url, "/api/sendInventory", .xml ⟨pin, "SEND_INVENTORY", values⟩, false⟩] := by
  obtain ⟨url, target⟩ := (@targetBaseUrl_returns_iff world kraDevice).mpr hasUrl
  have built : buildKraXml pin "SEND_INVENTORY" values = .ok ⟨pin, "SEND_INVENTORY", values⟩ :=
    buildKraXml_eq_ok.mpr ⟨noArrays, rfl⟩
  refine ⟨url, ?_⟩
  rw [sendInventoryMovement, hasPin, exec_raise_bind_ok, target, withBaseUrl,
    Cell.exec_restoring_ok (exec_setBaseUrl_ok url session), read, exec_raise_bind_ok, built,
    exec_raise_bind_ok]
  exact calls_acknowledged _ _ _ _

end Sending

/-- A movement of bread at the till of the first shop. -/
def breadMovement (movementType : String) (quantity : Value) : Entries :=
  [(.str "gatewayDeviceId", .str Access.shopTill.id),
    (.str "taxpayerPin", .str Access.shopOwner.pin), (.str "branchId", .str "00"),
    (.str "itemClassificationCode", .str "5059690800"),
    (.str "itemCode", .str "KE1NTXU0000001"), (.str "quantity", quantity),
    (.str "updateDate", .str "20250704120000"), (.str "movementType", .str movementType)]

theorem movementType_breadMovement (quantity : Value) :
    read (breadMovement "OUT" quantity) "movementType" = some (.str "OUT") := rfl

end TaxGateway.Client
