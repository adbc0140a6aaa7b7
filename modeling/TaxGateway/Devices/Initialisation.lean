import TaxGateway.Devices.ActivationRecovery
import TaxGateway.Foundations.ArrayMerge

/-!
Contract: what an activation does to the table of devices.

Owns:
- `initializeDevice` as a function from the tables and the outcome of its command to
  the tables and the row it returns;
- the row an activation leaves: the only one with its SCU id, activated, owned by the
  taxpayer of the request, all others untouched;
- that a repeated activation changes nothing;
- the configurations that keep the values of all other keys.

Does not own: activations that overlap.
-/

namespace TaxGateway.Devices

open TaxGateway.Php
open TaxGateway.Php.Value
open TaxGateway.Database
open TaxGateway.Effects
open TaxGateway.Services
open TaxGateway.Services.Session
open TaxGateway.Services.KraDeviceService

/-! ## Configurations -/

/-- The keys an activation writes. -/
def ownKeys : List Key :=
  [.str "branch_office_id", .str "initial_activation_raw_response", .str "vscu_jar_url_used"]

def configEntries : Value → Entries
  | .arr entries => entries
  | _ => []

/-- Every other key keeps its value. -/
def KeepsConfig (old new : Value) : Prop :=
  ∀ key value, key ∉ ownKeys → (configEntries old).lookup key = some value →
    (configEntries new).lookup key = some value

/-- The integer keys are the places of their values. -/
def NumbersInPlace (config : Value) : Prop :=
  ∀ (n : Int) (value : Value), (configEntries config).lookup (.int n) = some value →
    ∃ place : Nat, n = place ∧ (integerValues (configEntries config))[place]? = some value

section Configs

variable {config merged branchOfficeId vscuJarUrlUsed : Value} {rawResponse : String}

theorem mergedConfig_cases
    (isMerged : mergedConfig config branchOfficeId vscuJarUrlUsed rawResponse = .ok merged) :
    merged = .arr (arrayMerge (configEntries config)
      [(.str "branch_office_id", branchOfficeId),
        (.str "initial_activation_raw_response", .str rawResponse),
        (.str "vscu_jar_url_used", vscuJarUrlUsed)]) := by
  cases config with
  | null | arr _ => exact (Except.ok.inj isMerged).symm
  | bool _ | num _ | str _ => cases isMerged

/-- What is no configuration has no integer keys. -/
theorem numbersInPlace_of_error {thrown : Throwable}
    (refused : mergedConfig config branchOfficeId vscuJarUrlUsed rawResponse = .error thrown) :
    NumbersInPlace config := by
  cases config with
  | null | arr _ => cases refused
  | bool _ | num _ | str _ => exact fun _ _ found => by cases found

/-- Merged again, a configuration stays as it is. -/
theorem mergedConfig_again
    (isMerged : mergedConfig config branchOfficeId vscuJarUrlUsed rawResponse = .ok merged) :
    mergedConfig merged branchOfficeId vscuJarUrlUsed rawResponse = .ok merged := by
  obtain rfl := mergedConfig_cases isMerged
  refine congrArg (fun entries => Except.ok (Value.arr entries)) (arrayMerge_idempotent _ ?_ ?_)
  · simp
  · simp

/-- The other keys keep their values exactly if the integer keys are in place. -/
theorem keepsConfig_iff
    (distinct : ((configEntries config).map Prod.fst).Nodup)
    (isMerged : mergedConfig config branchOfficeId vscuJarUrlUsed rawResponse = .ok merged) :
    KeepsConfig config merged ↔ NumbersInPlace config := by
  obtain rfl := mergedConfig_cases isMerged
  constructor
  · intro keeps n value found
    have kept := keeps (.int n) value (by simp [ownKeys]) found
    simpa [configEntries, lookup_arrayMerge_int_iff] using kept
  · intro inPlace key value isOther found
    cases key with
    | int n =>
        have isValue := inPlace n value found
        simpa [configEntries, lookup_arrayMerge_int_iff] using isValue
    | str key => exact lookup_arrayMerge_left distinct found isOther

end Configs

/-! ## Initialisation as a function -/

section Functions

variable (world : World) (tenants : Tenants) (activation : Activation)

/-- `$parsedJson['sdcId'] ?? null`. -/
def sdcId (response : HttpResponse) : Value :=
  ((world.jsonDecode response.body).getD .null).coalesce "sdcId" .null

/-- Neither write of an activation moves a row. -/
theorem keepsKeys_stored (row stored : KraDeviceRow) :
    let written := { stored with
      deviceType := row.deviceType, status := row.status, config := row.config }
    written.id = stored.id ∧ written.kraScuId = stored.kraScuId ∧
      written.taxpayerPinId = stored.taxpayerPinId :=
  ⟨rfl, rfl, rfl⟩

theorem keepsKeys_recovered (stored : KraDeviceRow) :
    let written := { stored with status := .ACTIVATED }
    written.id = stored.id ∧ written.kraScuId = stored.kraScuId ∧
      written.taxpayerPinId = stored.taxpayerPinId :=
  ⟨rfl, rfl, rfl⟩

/-- The row and the tables once KRA has granted the activation. -/
def granted (url : String) (response : HttpResponse) : Except Throwable (KraDeviceRow × Tenants) :=
  if (sdcId world response).isEmpty then
    .error (.exception ("KRA initialization response missing sdcId: " ++ response.body))
  else do
    let found := deviceOfScu tenants (bindingText (sdcId world response)) activation.taxpayerPin
    let row ← activatedRow world.uuid activation (sdcId world response) url response.body found
    match world.database, found with
    | some message, _ => .error (.exception message)
    | none, none => return (row, ← tenants.insertDevice row)
    | none, some device =>
        return (row, tenants.updateDevice device.id
          (fun stored =>
            { stored with
              deviceType := row.deviceType, status := row.status, config := row.config })
          (keepsKeys_stored row))

/-- The row and the tables once KRA has refused it. -/
def refused (e : KraApiException) : Except Thrown (KraDeviceRow × Tenants) :=
  if e.kraErrorCode = some "41" then
    match e.kraRawResponse with
    | none =>
        .error (.php (.error "Argument #1 ($rawResponse) must be of type string, null given"))
    | some text =>
        match world.platform.simplexmlLoadString text with
        | none => .error (.php (.exception "simplexml_load_string(): parser error"))
        | some _ =>
            let named := (activatedScuId text.toList).filter fun text => !(Value.str text).isEmpty
            match named.bind fun text => deviceOfScu tenants (some text) activation.taxpayerPin with
            | none => .error (.kraApi e)
            | some device =>
                if device.status = .ACTIVATED then
                  .ok ({ device with status := .ACTIVATED }, tenants)
                else
                  match world.database with
                  | some message => .error (.php (.exception message))
                  | none =>
                      .ok ({ device with status := .ACTIVATED },
                        tenants.updateDevice device.id
                          (fun row => { row with status := .ACTIVATED })
                          keepsKeys_recovered)
  else .error (.kraApi e)

/-- The row and the tables, given the outcome of the command. -/
def settled (url : String) : Except Thrown HttpResponse → Except Thrown (KraDeviceRow × Tenants)
  | .ok response => (granted world tenants activation url response).mapError .php
  | .error (.kraApi e) => refused world tenants activation e
  | .error (.php other) => .error (.php other)

end Functions

section Code

variable {collate : String → String} {world : World} {activation : Activation}

/-- A session is left with new tables if there is a result, else as it was. -/
def leave (session : Session collate) :
    Except Thrown (KraDeviceRow × Tenants) → Except Thrown KraDeviceRow × Session collate
  | .ok (row, tenants) => (.ok row, { session with tenants := tenants })
  | .error thrown => (.error thrown, session)

/-- `$jsonPayload`. -/
def activationPayload (activation : Activation) : List (String × Value) :=
  [("tin", .str activation.taxpayerPin.pin), ("bhfId", activation.branchOfficeId),
    ("dvcTy", activation.deviceType), ("dvcSrlNo", activation.dvcSrlNo)]

theorem exec_activate_ok {session after : Session collate} {response : HttpResponse}
    (sent : exec (sendJsonCommand world "/initiolises" (activationPayload activation) true)
      session = (.ok response, after)) :
    exec (activate world activation) session =
      leave after ((granted world after.tenants activation (baseUrl.get after) response).mapError
        .php) := by
  have run : exec (activate world activation) session = exec (if (sdcId world response).isEmpty
      then _ else _) after := exec_bind_ok sent
  rw [run, granted]
  by_cases missing : (sdcId world response).isEmpty = true
  · rw [if_pos missing, if_pos missing]
    rfl
  · rw [if_neg missing, if_neg missing, exec_bind_ok (exec_get after)]
    dsimp only
    rw [show ((world.jsonDecode response.body).getD .null).coalesce "sdcId" .null =
      sdcId world response from rfl]
    cases activatedRow world.uuid activation (sdcId world response) (baseUrl.get after)
        response.body (deviceOfScu after.tenants (bindingText (sdcId world response))
          activation.taxpayerPin) with
    | error thrown => rfl
    | ok row =>
        rw [exec_raise_bind_ok, ok_bind]
        cases deviceOfScu after.tenants (bindingText (sdcId world response))
            activation.taxpayerPin with
        | none =>
            unfold insertDevice
            cases world.database with
            | some message => rfl
            | none =>
                dsimp only
                rw [bind_assoc, exec_bind_ok (exec_get after)]
                cases after.tenants.insertDevice row <;> rfl
        | some device =>
            unfold updateDevice
            cases world.database <;> rfl

theorem exec_recover (e : KraApiException) (session : Session collate) :
    exec (recover world activation e) session =
      leave session (refused world session.tenants activation e) := by
  unfold recover refused
  by_cases isActivated : e.kraErrorCode = some "41"
  · rw [if_pos isActivated, if_pos isActivated]
    cases e.kraRawResponse with
    | none => rfl
    | some text =>
        rw [extractKraScuIdFromErrorResponse, parseXml]
        dsimp only
        cases world.platform.simplexmlLoadString text with
        | none => rfl
        | some parsed =>
            simp only [pure_bind]
            rw [exec_bind_ok (exec_get session)]
            cases ((activatedScuId text.toList).filter fun text =>
                !(Value.str text).isEmpty).bind fun text =>
                deviceOfScu session.tenants (some text) activation.taxpayerPin with
            | none => rfl
            | some device =>
                dsimp only
                by_cases isActive : device.status = .ACTIVATED
                · rw [if_pos isActive, if_neg (not_not.mpr isActive)]
                  rfl
                · rw [if_neg isActive, if_pos isActive]
                  unfold updateDevice
                  cases world.database <;> rfl
  · rw [if_neg isActivated, if_neg isActivated]
    rfl

/-- Where the command of an activation is sent. -/
def activationUrl (world : World) (session : Session collate) (activation : Activation) : String :=
  if isVscu activation.deviceType then world.config.vscuJarBaseUrl else baseUrl.get session

/-- The outcome of that command. -/
def activationOutcome (world : World) (session : Session collate) (activation : Activation) :
    Except Thrown HttpResponse :=
  KraClient.sendJsonCommand world.platform world.jsonDecode world.simulateJson
    { session.gateway.kraApi with baseUrl := activationUrl world session activation }
    "/initiolises" (activationPayload activation) true
    fun _ => world.transport session.calls.length

/-- The calls of the client once the command of an activation is sent. -/
def activationCalls (world : World) (session : Session collate) (activation : Activation) :
    List Call :=
  session.calls ++ [⟨activationUrl world session activation, "/initiolises",
    .json (activationPayload activation), true⟩]

/-- A session between the two switches: the command sent from it has the outcome of the
activation, and putting the base URL back leaves nothing of the switch. -/
structure IsSwitched (world : World) (session between : Session collate)
    (activation : Activation) : Prop where
  switched : exec (switchIf (isVscu activation.deviceType) (.ok world.config.vscuJarBaseUrl))
    session = (.ok ⟨⟩, between)
  hasUrl : baseUrl.get between = activationUrl world session activation
  sameTenants : between.tenants = session.tenants
  sent : exec (sendJsonCommand world "/initiolises" (activationPayload activation) true) between =
    (activationOutcome world session activation,
      { between with calls := activationCalls world session activation })
  restored : ∀ tenants, baseUrl.put (baseUrl.get session)
    { between with calls := activationCalls world session activation, tenants := tenants } =
      { session with calls := activationCalls world session activation, tenants := tenants }

theorem exists_switched (world : World) (session : Session collate) (activation : Activation) :
    ∃ between, IsSwitched world session between activation := by
  -- Without a switch the base URL in effect is the one before.
  refine ⟨baseUrl.put (activationUrl world session activation) session, ?_⟩
  constructor
  · rw [activationUrl]
    cases isVscu activation.deviceType with
    | true => rfl
    | false => rfl
  · rfl
  · rfl
  · exact exec_transmit _ _ _ _ _ _
  · exact fun _ => rfl

/-- What is left between the switches is left behind them. -/
theorem IsSwitched.putBack {session between : Session collate}
    (isSwitched : IsSwitched world session between activation)
    (result : Except Thrown (KraDeviceRow × Tenants)) :
    let ended := leave { between with calls := activationCalls world session activation } result
    (ended.1, baseUrl.put (baseUrl.get session) ended.2) =
      leave { session with calls := activationCalls world session activation } result := by
  cases result with
  | ok value => exact congrArg (Prod.mk _) (isSwitched.restored value.2)
  | error thrown =>
      have kept := isSwitched.restored between.tenants
      rw [isSwitched.sameTenants] at kept
      simp only [leave, isSwitched.sameTenants, kept]

/-- `initializeDevice` sends one command and settles its outcome. -/
theorem exec_initializeDevice_of_sent {data : Entries} {session : Session collate}
    (accepted : readActivation session.tenants (.arr data) = .ok activation) :
    exec (initializeDevice world data) session =
      leave { session with calls := activationCalls world session activation }
        (settled world session.tenants activation (activationUrl world session activation)
          (activationOutcome world session activation)) := by
  obtain ⟨between, isSwitched⟩ := exists_switched world session activation
  have putBack := isSwitched.putBack
  generalize isAfter : { between with calls := activationCalls world session activation } = after
    at putBack
  have sent := isSwitched.sent
  rw [isAfter] at sent
  have sameTenants : after.tenants = session.tenants := by
    rw [← isAfter]
    exact isSwitched.sameTenants
  have hasUrl : baseUrl.get after = activationUrl world session activation := by
    rw [← isAfter]
    exact isSwitched.hasUrl
  rw [initializeDevice, exec_bind_ok (exec_get session), accepted, exec_raise_bind_ok,
    Cell.exec_restoring_ok isSwitched.switched, ← putBack, exec_tryCatch, ← sameTenants,
    ← hasUrl]
  -- What is left is the `try` statement, whose body runs between the two switches.
  refine congrArg (fun ended : Except Thrown KraDeviceRow × Session collate =>
    (ended.1, baseUrl.put (baseUrl.get session) ended.2)) ?_
  cases outcome : activationOutcome world session activation with
  | error thrown =>
      rw [outcome] at sent
      have activating : exec (activate world activation) between = (.error thrown, after) :=
        exec_bind_error sent
      rw [activating]
      cases thrown with
      | php other => rfl
      | kraApi e => exact exec_recover e after
  | ok response =>
      rw [outcome] at sent
      rw [exec_activate_ok sent]
      change _ = leave after ((granted world after.tenants activation (baseUrl.get after)
        response).mapError .php)
      cases granted world after.tenants activation (baseUrl.get after) response <;> rfl

/-- `initializeDevice` settles the outcome of its command, and leaves the client as it
was. -/
theorem exec_initializeDevice {data : Entries} {session : Session collate}
    (accepted : readActivation session.tenants (.arr data) = .ok activation) :
    ∃ calls, exec (initializeDevice world data) session =
      leave { session with calls := calls }
        (settled world session.tenants activation (activationUrl world session activation)
          (activationOutcome world session activation)) :=
  ⟨_, exec_initializeDevice_of_sent accepted⟩

end Code

/-! ## The row of an activation -/

/-- The row is the only one with the SCU id, activated and owned by the taxpayer; a row
that had the id keeps its keys; all other rows are as they were. -/
structure Registered (tenants tenants' : Tenants) (taxpayer : TaxpayerPin) (kraScuId : String)
    (row : KraDeviceRow) : Prop where
  isStored : row ∈ tenants'.kraDevices
  hasScuId : row.kraScuId = kraScuId
  isOnly : ∀ other ∈ tenants'.kraDevices, other.kraScuId = kraScuId → other = row
  isActivated : row.status = .ACTIVATED
  isOwned : row.taxpayerPinId = taxpayer.id
  keepsKeys : ∀ old ∈ tenants.kraDevices, old.kraScuId = kraScuId →
    old.id = row.id ∧ old.taxpayerPinId = row.taxpayerPinId
  othersUntouched : tenants'.kraDevices.filter (fun other => other.kraScuId ≠ kraScuId) =
    tenants.kraDevices.filter fun other => other.kraScuId ≠ kraScuId
  sameTaxpayers : tenants'.taxpayerPins = tenants.taxpayerPins

section Tables

variable {tenants tenants' : Tenants} {taxpayer : TaxpayerPin} {row device : KraDeviceRow}

theorem eq_of_sameScuId {other : KraDeviceRow} (isStored : device ∈ tenants.kraDevices)
    (isOther : other ∈ tenants.kraDevices) (same : other.kraScuId = device.kraScuId) :
    other = device :=
  List.inj_on_of_nodup_map tenants.uniqueKraScuId isOther isStored same

/-- An SCU id and a taxpayer name at most one row. -/
theorem deviceOfScu_eq_some_iff {kraScuId : String} :
    deviceOfScu tenants (some kraScuId) taxpayer = some device ↔
      device ∈ tenants.kraDevices ∧ device.kraScuId = kraScuId ∧
        device.taxpayerPinId = taxpayer.id := by
  constructor
  · intro found
    have holds := List.find?_some found
    simp only [Bool.and_eq_true, decide_eq_true_eq, Option.some.injEq] at holds
    exact ⟨List.mem_of_find?_eq_some found, holds.1.symm, holds.2⟩
  · rintro ⟨isStored, rfl, isOwn⟩
    cases found : deviceOfScu tenants (some device.kraScuId) taxpayer with
    | none =>
        have missing := List.find?_eq_none.mp found device isStored
        simp [isOwn] at missing
    | some other =>
        have holds := List.find?_some found
        simp only [Bool.and_eq_true, decide_eq_true_eq, Option.some.injEq] at holds
        rw [eq_of_sameScuId isStored (List.mem_of_find?_eq_some found) holds.1.symm]

/-- A row is inserted behind the others, and none of them has its SCU id. -/
theorem insertDevice_cases (inserted : tenants.insertDevice row = .ok tenants') :
    tenants'.kraDevices = tenants.kraDevices ++ [row] ∧
      tenants'.taxpayerPins = tenants.taxpayerPins ∧
      ∀ old ∈ tenants.kraDevices, old.kraScuId ≠ row.kraScuId := by
  unfold Tenants.insertDevice at inserted
  split at inserted
  next fits =>
    split at inserted
    next fresh =>
      obtain rfl := Except.ok.inj inserted
      exact ⟨rfl, rfl, fun old isOld same => fresh.2.1 (List.mem_map.mpr ⟨old, isOld, same⟩)⟩
    next => cases inserted
  next => cases inserted

theorem registered_of_insert (inserted : tenants.insertDevice row = .ok tenants')
    (isActivated : row.status = .ACTIVATED) (isOwned : row.taxpayerPinId = taxpayer.id) :
    Registered tenants tenants' taxpayer row.kraScuId row := by
  obtain ⟨rows, sameTaxpayers, isNew⟩ := insertDevice_cases inserted
  refine ⟨by simp [rows], rfl, ?_, isActivated, isOwned, ?_, by simp [rows], sameTaxpayers⟩
  · intro other isOther same
    rw [rows] at isOther
    rcases List.mem_append.mp isOther with isOld | isRow
    · exact absurd same (isNew other isOld)
    · exact List.mem_singleton.mp isRow
  · intro old isOld same
    exact absurd same (isNew old isOld)

/-- An activated row needs no change. -/
theorem registered_of_stored (isStored : device ∈ tenants.kraDevices)
    (isOwn : device.taxpayerPinId = taxpayer.id) (isActivated : device.status = .ACTIVATED) :
    Registered tenants tenants taxpayer device.kraScuId device := by
  refine ⟨isStored, rfl, fun _ => eq_of_sameScuId isStored, isActivated, isOwn, ?_, rfl, rfl⟩
  intro old isOld same
  rw [eq_of_sameScuId isStored isOld same]
  exact ⟨rfl, rfl⟩

theorem registered_of_update (isStored : device ∈ tenants.kraDevices)
    (isOwn : device.taxpayerPinId = taxpayer.id) (change : KraDeviceRow → KraDeviceRow)
    (keepsKeys : ∀ row, (change row).id = row.id ∧ (change row).kraScuId = row.kraScuId ∧
      (change row).taxpayerPinId = row.taxpayerPinId)
    (isActivated : (change device).status = .ACTIVATED) :
    Registered tenants (tenants.updateDevice device.id change keepsKeys) taxpayer
      device.kraScuId (change device) := by
  let update := fun row : KraDeviceRow => if row.id = device.id then change row else row
  have sameScuId : ∀ row, (update row).kraScuId = row.kraScuId := by
    intro row
    by_cases isDevice : row.id = device.id
    · simpa only [update, isDevice, if_true] using (keepsKeys row).2.1
    · simp [update, isDevice]
  have isThere : change device ∈
      (tenants.updateDevice device.id change keepsKeys).kraDevices :=
    List.mem_map.mpr ⟨device, isStored, if_pos rfl⟩
  refine ⟨isThere, (keepsKeys device).2.1, ?_, isActivated, (keepsKeys device).2.2.trans isOwn,
    ?_, ?_, rfl⟩
  · intro other isOther same
    exact eq_of_sameScuId isThere isOther (same.trans (keepsKeys device).2.1.symm)
  · intro old isOld same
    obtain rfl := eq_of_sameScuId isStored isOld same
    exact ⟨(keepsKeys old).1.symm, (keepsKeys old).2.2.symm⟩
  · show (tenants.kraDevices.map update).filter _ = _
    rw [List.filter_map]
    simp only [Function.comp_def, sameScuId]
    -- A row with another SCU id is not the one that is updated.
    refine (List.map_congr_left fun row isRow => ?_).trans (List.map_id _)
    obtain ⟨isOld, isOther⟩ := List.mem_filter.mp isRow
    refine if_neg fun isDevice => ?_
    have same := List.inj_on_of_nodup_map tenants.uniqueDeviceId isOld isStored isDevice
    simp [same] at isOther

end Tables

/-! ## Granted activations -/

section Granted

variable {world : World} {tenants tenants' : Tenants} {activation : Activation} {url : String}
  {response : HttpResponse} {row : KraDeviceRow}

/-- What the row of a granted activation is made of. -/
theorem activatedRow_cases {uuid rawResponse : String} {kraScuId : Value}
    {found : Option KraDeviceRow}
    (made : activatedRow uuid activation kraScuId url rawResponse found = .ok row) :
    mergedConfig ((found.map KraDeviceRow.config).getD .null) activation.branchOfficeId
        (if isVscu activation.deviceType then .str url else .null) rawResponse = .ok row.config ∧
      columnText kraScuId = .ok row.kraScuId ∧
      columnText activation.deviceType = .ok row.deviceType ∧
      ["OSCU", "VSCU"].contains row.deviceType = true ∧
      row.id = (found.map KraDeviceRow.id).getD uuid ∧
      row.taxpayerPinId = activation.taxpayerPin.id ∧ row.status = .ACTIVATED ∧
      row.lastStatusCheckAt = found.bind KraDeviceRow.lastStatusCheckAt := by
  obtain ⟨config, isMerged, made⟩ := bind_eq_ok.mp made
  obtain ⟨scuId, isScuId, made⟩ := bind_eq_ok.mp made
  obtain ⟨deviceType, isType, made⟩ := bind_eq_ok.mp made
  split at made
  next isKnown =>
    obtain rfl := Except.ok.inj made
    exact ⟨isMerged, isScuId, isType, isKnown, rfl, rfl, rfl, rfl⟩
  next => cases made

/-- A text that a column takes is what a query compares it with. -/
theorem bindingText_of_columnText {value : Value} {text : String}
    (isText : columnText value = .ok text) : bindingText value = some text := by
  cases value with
  | arr _ => cases isText
  | null => cases isText
  | bool _ | num _ | str _ => exact congrArg some (Except.ok.inj isText)

/-- KRA grants the id of a stored device of the taxpayer, and its row can be updated. -/
structure UpdatesRow (world : World) (tenants : Tenants) (activation : Activation)
    (response : HttpResponse) (device : KraDeviceRow) : Prop where
  isStored : device ∈ tenants.kraDevices
  isOwn : device.taxpayerPinId = activation.taxpayerPin.id
  isGiven : (sdcId world response).isEmpty = false
  isGranted : columnText (sdcId world response) = .ok device.kraScuId
  isType : ∃ deviceType, columnText activation.deviceType = .ok deviceType ∧
    ["OSCU", "VSCU"].contains deviceType = true
  databaseWorks : world.database = none

/-- What a granted activation can do. -/
theorem granted_cases (isGranted : granted world tenants activation url response =
      .ok (row, tenants')) :
    columnText (sdcId world response) = .ok row.kraScuId ∧
      (sdcId world response).isEmpty = false ∧
      columnText activation.deviceType = .ok row.deviceType ∧
      Registered tenants tenants' activation.taxpayerPin row.kraScuId row ∧
      ((∀ old ∈ tenants.kraDevices, old.kraScuId ≠ row.kraScuId) ∧
          mergedConfig .null activation.branchOfficeId
            (if isVscu activation.deviceType then .str url else .null) response.body =
              .ok row.config ∨
        ∃ device, UpdatesRow world tenants activation response device ∧
          mergedConfig device.config activation.branchOfficeId
            (if isVscu activation.deviceType then .str url else .null) response.body =
              .ok row.config ∧
          tenants'.kraDevices = tenants.kraDevices.map fun stored =>
            if stored.id = device.id then
              { stored with
                deviceType := row.deviceType, status := row.status, config := row.config }
            else stored) := by
  unfold granted at isGranted
  split at isGranted
  next => cases isGranted
  next isGiven =>
    obtain ⟨made, isMade, rest⟩ := bind_eq_ok.mp isGranted
    obtain ⟨isMerged, isScuId, isType, isKnown, sameId, isOwned, isActivated, sameCheck⟩ :=
      activatedRow_cases isMade
    have isGiven : (sdcId world response).isEmpty = false := by simpa using isGiven
    rw [bindingText_of_columnText isScuId] at isMerged sameId sameCheck rest
    cases works : world.database with
    | some message =>
        rw [works] at rest
        cases rest
    | none =>
        rw [works] at rest
        cases found : deviceOfScu tenants (some made.kraScuId) activation.taxpayerPin with
        | none =>
            rw [found] at rest isMerged
            obtain ⟨inserted, isInserted, same⟩ := bind_eq_ok.mp rest
            obtain ⟨rfl, rfl⟩ := Prod.mk.inj (Except.ok.inj same)
            exact ⟨isScuId, isGiven, isType, registered_of_insert isInserted isActivated isOwned,
              .inl ⟨(insertDevice_cases isInserted).2.2, isMerged⟩⟩
        | some device =>
            rw [found] at rest isMerged sameId sameCheck
            obtain ⟨isStored, sameScuId, isOwn⟩ := deviceOfScu_eq_some_iff.mp found
            obtain ⟨rfl, rfl⟩ := Prod.mk.inj (Except.ok.inj rest)
            have updated : { device with
                deviceType := made.deviceType, status := made.status, config := made.config } =
                made := by
              have sameTaxpayer := isOwn.trans isOwned.symm
              have sameId : made.id = device.id := sameId
              have sameCheck : made.lastStatusCheckAt = device.lastStatusCheckAt := sameCheck
              rw [sameScuId, sameTaxpayer, ← sameId, ← sameCheck]
            have registered := registered_of_update isStored isOwn
              (fun stored =>
                { stored with
                  deviceType := made.deviceType, status := made.status, config := made.config })
              (keepsKeys_stored made) isActivated
            rw [updated, sameScuId] at registered
            exact ⟨isScuId, isGiven, isType, registered, .inr ⟨device,
              ⟨isStored, isOwn, isGiven, sameScuId ▸ isScuId, ⟨_, isType, isKnown⟩, works⟩,
              isMerged, rfl⟩⟩

/-- Granted again, an activation changes nothing. -/
theorem granted_again (first : granted world tenants activation url response =
      .ok (row, tenants')) {world' : World} (sameJson : world'.jsonDecode = world.jsonDecode)
    {row' : KraDeviceRow} {tenants'' : Tenants}
    (second : granted world' tenants' activation url response = .ok (row', tenants'')) :
    tenants''.kraDevices = tenants'.kraDevices := by
  have sameId : sdcId world' response = sdcId world response := by
    rw [sdcId, sdcId, sameJson]
  obtain ⟨isScuId, -, isType, registered, made⟩ := granted_cases first
  obtain ⟨isScuId', -, isType', registered', made'⟩ := granted_cases second
  have sameScuId : row'.kraScuId = row.kraScuId :=
    Except.ok.inj ((sameId ▸ isScuId').symm.trans isScuId)
  rcases made' with ⟨isNew, -⟩ | ⟨device, updates, isMerged', rows⟩
  · exact absurd sameScuId.symm (isNew row registered.isStored)
  · obtain rfl : device = row := by
      refine registered.isOnly device updates.isStored ?_
      exact Except.ok.inj (updates.isGranted.symm.trans (sameId ▸ isScuId))
    have stays : mergedConfig device.config activation.branchOfficeId
        (if isVscu activation.deviceType then .str url else .null) response.body =
          .ok device.config := by
      rcases made with ⟨-, isMerged⟩ | ⟨old, -, isMerged, -⟩
      · exact mergedConfig_again isMerged
      · exact mergedConfig_again isMerged
    have sameConfig : row'.config = device.config := Except.ok.inj (isMerged'.symm.trans stays)
    have sameType : row'.deviceType = device.deviceType :=
      Except.ok.inj (isType'.symm.trans isType)
    have sameStatus : row'.status = device.status :=
      registered'.isActivated.trans registered.isActivated.symm
    rw [rows, sameConfig, sameType, sameStatus]
    refine (List.map_congr_left fun stored isStored => ?_).trans (List.map_id _)
    by_cases isDevice : stored.id = device.id
    · obtain rfl := List.inj_on_of_nodup_map tenants'.uniqueDeviceId isStored updates.isStored
        isDevice
      exact if_pos rfl
    · exact if_neg isDevice

/-- A row that can be updated is updated, if its configuration is one. -/
theorem exists_granted {device : KraDeviceRow}
    (updates : UpdatesRow world tenants activation response device) {merged : Value}
    (isMerged : mergedConfig device.config activation.branchOfficeId
      (if isVscu activation.deviceType then .str url else .null) response.body = .ok merged) :
    ∃ result, granted world tenants activation url response = .ok result := by
  obtain ⟨deviceType, isType, isKnown⟩ := updates.isType
  have found := deviceOfScu_eq_some_iff.mpr ⟨updates.isStored, rfl, updates.isOwn⟩
  unfold granted
  rw [if_neg (by simp [updates.isGiven]), bindingText_of_columnText updates.isGranted]
  simp only [found, activatedRow, Option.map_some, Option.getD_some, isMerged, ok_bind,
    updates.isGranted, isType, isKnown, if_true, updates.databaseWorks]
  exact ⟨_, rfl⟩

end Granted

/-! ## Refused activations -/

section Refused

variable {world : World} {tenants tenants' : Tenants} {activation : Activation}
  {e : KraApiException} {row : KraDeviceRow}

/-- What a refused activation can do: a stored device is found by the id that the answer
names, and its status is `ACTIVATED` from then on. -/
theorem refused_cases (isRefused : refused world tenants activation e = .ok (row, tenants')) :
    (∃ text, e.kraRawResponse = some text ∧ activatedScuId text.toList = some row.kraScuId) ∧
      Registered tenants tenants' activation.taxpayerPin row.kraScuId row ∧
      ∀ old ∈ tenants.kraDevices, old.kraScuId = row.kraScuId → row.config = old.config := by
  unfold refused at isRefused
  split at isRefused
  next =>
    split at isRefused
    next => cases isRefused
    next text isText =>
      split at isRefused
      next => cases isRefused
      next =>
        dsimp only at isRefused
        split at isRefused
        next => cases isRefused
        next device found =>
          obtain ⟨kraScuId, named, found⟩ := Option.bind_eq_some_iff.mp found
          obtain ⟨isNamed, -⟩ := Option.filter_eq_some_iff.mp named
          obtain ⟨isStored, rfl, isOwn⟩ := deviceOfScu_eq_some_iff.mp found
          have sameConfig : ∀ old ∈ tenants.kraDevices, old.kraScuId = device.kraScuId →
              device.config = old.config := by
            intro old isOld same
            rw [eq_of_sameScuId isStored isOld same]
          split at isRefused
          next isActive =>
            obtain ⟨rfl, rfl⟩ := Prod.mk.inj (Except.ok.inj isRefused)
            rw [← isActive]
            exact ⟨⟨text, isText, isNamed⟩, registered_of_stored isStored isOwn isActive,
              sameConfig⟩
          next =>
            split at isRefused
            next => cases isRefused
            next =>
              obtain ⟨rfl, rfl⟩ := Prod.mk.inj (Except.ok.inj isRefused)
              have registered := registered_of_update isStored isOwn
                (fun row => { row with status := .ACTIVATED }) keepsKeys_recovered rfl
              exact ⟨⟨text, isText, isNamed⟩, registered, sameConfig⟩
  next => cases isRefused

/-- Refused again, an activation changes nothing. -/
theorem refused_again (first : refused world tenants activation e = .ok (row, tenants'))
    {world' : World} {row' : KraDeviceRow} {tenants'' : Tenants}
    (second : refused world' tenants' activation e = .ok (row', tenants'')) :
    tenants''.kraDevices = tenants'.kraDevices := by
  obtain ⟨⟨text, isText, isNamed⟩, registered, -⟩ := refused_cases first
  unfold refused at second
  split at second
  next =>
    split at second
    next => cases second
    next other isOther =>
      obtain rfl := Option.some.inj (isText.symm.trans isOther)
      split at second
      next => cases second
      next =>
        dsimp only at second
        split at second
        next => cases second
        next device found =>
          obtain ⟨kraScuId, named, found⟩ := Option.bind_eq_some_iff.mp found
          obtain ⟨isNamed', -⟩ := Option.filter_eq_some_iff.mp named
          obtain rfl := Option.some.inj (isNamed.symm.trans isNamed')
          obtain ⟨isStored, same, -⟩ := deviceOfScu_eq_some_iff.mp found
          obtain rfl := registered.isOnly device isStored same
          rw [if_pos registered.isActivated] at second
          obtain ⟨-, rfl⟩ := Prod.mk.inj (Except.ok.inj second)
          rfl
  next => cases second

end Refused

/-! ## What is promised -/

/-- The SCU id that the outcome of the command yields. -/
def yieldedScuId (world : World) : Except Thrown HttpResponse → Option String
  | .ok response => (columnText (sdcId world response)).toOption
  | .error (.kraApi e) => e.kraRawResponse.bind fun text => activatedScuId text.toList
  | .error (.php _) => none

/-- At another time, the same configuration and the same answer to the nth command. -/
structure RepeatsAnswer (world world' : World) (n n' : Nat) : Prop where
  platform : world'.platform = world.platform
  jsonDecode : world'.jsonDecode = world.jsonDecode
  simulateJson : world'.simulateJson = world.simulateJson
  config : world'.config = world.config
  answer : world'.transport n' = world.transport n

section Settled

variable {world world' : World} {tenants tenants' tenants'' : Tenants} {activation : Activation}
  {url : String} {outcome : Except Thrown HttpResponse} {row row' : KraDeviceRow}

theorem settled_ok_iff {response : HttpResponse} {result : KraDeviceRow × Tenants} :
    settled world tenants activation url (.ok response) = .ok result ↔
      granted world tenants activation url response = .ok result := by
  rw [settled]
  cases granted world tenants activation url response <;> simp [Except.mapError]

theorem settled_cases (isSettled : settled world tenants activation url outcome =
      .ok (row, tenants')) :
    yieldedScuId world outcome = some row.kraScuId ∧
      Registered tenants tenants' activation.taxpayerPin row.kraScuId row := by
  cases outcome with
  | ok response =>
      obtain ⟨isScuId, -, -, registered, -⟩ := granted_cases (settled_ok_iff.mp isSettled)
      exact ⟨by rw [yieldedScuId, isScuId]; rfl, registered⟩
  | error thrown =>
      cases thrown with
      | php other => cases isSettled
      | kraApi e =>
          obtain ⟨⟨text, isText, isNamed⟩, registered, -⟩ := refused_cases isSettled
          exact ⟨by simp [yieldedScuId, isText, isNamed], registered⟩

theorem settled_again (sameJson : world'.jsonDecode = world.jsonDecode)
    (first : settled world tenants activation url outcome = .ok (row, tenants'))
    (second : settled world' tenants' activation url outcome = .ok (row', tenants'')) :
    tenants''.kraDevices = tenants'.kraDevices := by
  cases outcome with
  | ok response =>
      exact granted_again (settled_ok_iff.mp first) sameJson (settled_ok_iff.mp second)
  | error thrown =>
      cases thrown with
      | php other => cases first
      | kraApi e => exact refused_again first second

end Settled

section Promise

variable {collate : String → String} {world : World} {session : Session collate} {data : Entries}

/-- The call throws and leaves the devices as they were; or it returns the row of the
yielded SCU id, which keeps the other keys of its configuration, and the same call with
the same answer changes nothing more. -/
def KeepsPromise (world : World) (session : Session collate) (data : Entries) : Prop :=
  let run := exec (initializeDevice world data) session
  (∃ thrown, run.1 = .error thrown) ∧ run.2.tenants.kraDevices = session.tenants.kraDevices ∨
    ∃ row activation, run.1 = .ok row ∧
      readActivation session.tenants (.arr data) = .ok activation ∧
      yieldedScuId world (activationOutcome world session activation) = some row.kraScuId ∧
      Registered session.tenants run.2.tenants activation.taxpayerPin row.kraScuId row ∧
      (∀ old ∈ session.tenants.kraDevices, old.kraScuId = row.kraScuId →
        KeepsConfig old.config row.config) ∧
      ∀ world', RepeatsAnswer world world' session.calls.length run.2.calls.length →
        (exec (initializeDevice world' data) run.2).2.tenants.kraDevices =
          run.2.tenants.kraDevices

/-- The input is read from the taxpayers alone. -/
theorem readActivation_congr {tenants tenants' : Tenants} (data : Value)
    (same : tenants'.taxpayerPins = tenants.taxpayerPins) :
    readActivation tenants' data = readActivation tenants data := by
  simp only [readActivation, taxpayerOfPin, same]

/-- A repeated call finds the devices as the first left them, and leaves them so. -/
theorem initializeDevice_again {activation : Activation} {calls : List Call} {row : KraDeviceRow}
    {tenants : Tenants}
    (accepted : readActivation session.tenants (.arr data) = .ok activation)
    (first : settled world session.tenants activation (activationUrl world session activation)
      (activationOutcome world session activation) = .ok (row, tenants)) {world' : World}
    (repeats : RepeatsAnswer world world' session.calls.length calls.length) :
    (exec (initializeDevice world' data)
      { session with calls := calls, tenants := tenants }).2.tenants.kraDevices =
        tenants.kraDevices := by
  let after : Session collate := { session with calls := calls, tenants := tenants }
  have sameTaxpayers := (settled_cases first).2.sameTaxpayers
  have acceptedAgain : readActivation after.tenants (.arr data) = .ok activation :=
    (readActivation_congr _ sameTaxpayers).trans accepted
  have sameUrl :
      activationUrl world' after activation = activationUrl world session activation := by
    rw [activationUrl, activationUrl, repeats.config]
    rfl
  have sameOutcome : activationOutcome world' after activation =
      activationOutcome world session activation := by
    rw [activationOutcome, activationOutcome, sameUrl, repeats.platform, repeats.jsonDecode,
      repeats.simulateJson, repeats.answer]
  obtain ⟨others, ran⟩ := @exec_initializeDevice _ world' _ _ _ acceptedAgain
  rw [ran, sameUrl, sameOutcome]
  cases second : settled world' after.tenants activation (activationUrl world session activation)
      (activationOutcome world session activation) with
  | error thrown => rfl
  | ok value => exact settled_again repeats.jsonDecode first second

/-- A row keeps the other keys of its configuration exactly if no granted activation
that updates it finds integer keys out of place. -/
theorem keepsConfig_iff_of_settled {activation : Activation} {row : KraDeviceRow}
    {tenants : Tenants}
    (distinct : ∀ device ∈ session.tenants.kraDevices,
      ((configEntries device.config).map Prod.fst).Nodup)
    (isSettled : settled world session.tenants activation (activationUrl world session activation)
      (activationOutcome world session activation) = .ok (row, tenants)) :
    (∀ old ∈ session.tenants.kraDevices, old.kraScuId = row.kraScuId →
        KeepsConfig old.config row.config) ↔
      ∀ response device, activationOutcome world session activation = .ok response →
        UpdatesRow world session.tenants activation response device →
          NumbersInPlace device.config := by
  cases outcome : activationOutcome world session activation with
  | error thrown =>
      rw [outcome] at isSettled
      refine iff_of_true ?_ (by simp)
      cases thrown with
      | php other => cases isSettled
      | kraApi e =>
          intro old isOld same
          rw [(refused_cases isSettled).2.2 old isOld same]
          exact fun _ _ _ found => found
  | ok response =>
      rw [outcome] at isSettled
      obtain ⟨isScuId, -, -, -, made⟩ := granted_cases (settled_ok_iff.mp isSettled)
      have scuId_of_updates : ∀ device,
          UpdatesRow world session.tenants activation response device →
            device.kraScuId = row.kraScuId := fun device updates =>
        Except.ok.inj (updates.isGranted.symm.trans isScuId)
      rcases made with ⟨isNew, -⟩ | ⟨device, updates, isMerged, -⟩
      · refine iff_of_true (fun old isOld same => absurd same (isNew old isOld)) ?_
        intro _ device isResponse updates
        obtain rfl := Except.ok.inj isResponse
        exact absurd (scuId_of_updates device updates) (isNew device updates.isStored)
      · have isDevice : ∀ other ∈ session.tenants.kraDevices, other.kraScuId = row.kraScuId →
            other = device := fun other isStored same =>
          eq_of_sameScuId updates.isStored isStored
            (same.trans (scuId_of_updates device updates).symm)
        have kept := keepsConfig_iff (distinct device updates.isStored) isMerged
        constructor
        · intro keeps _ other isResponse updates'
          obtain rfl := Except.ok.inj isResponse
          obtain rfl := isDevice other updates'.isStored (scuId_of_updates other updates')
          exact kept.mp (keeps other updates'.isStored (scuId_of_updates other updates'))
        · intro inPlace old isOld same
          obtain rfl := isDevice old isOld same
          exact kept.mpr (inPlace response old rfl updates)

/-- A granted activation that could update a row fails at its configuration only. -/
theorem numbersInPlace_of_settled_error {world : World} {session : Session collate}
    {activation : Activation} {response : HttpResponse} {device : KraDeviceRow} {thrown : Thrown}
    (ended : settled world session.tenants activation (activationUrl world session activation)
      (activationOutcome world session activation) = .error thrown)
    (answered : activationOutcome world session activation = .ok response)
    (updates : UpdatesRow world session.tenants activation response device) :
    NumbersInPlace device.config := by
  rw [answered] at ended
  cases merging : mergedConfig device.config activation.branchOfficeId
      (if isVscu activation.deviceType then
        .str (activationUrl world session activation) else .null) response.body with
  | error refused => exact numbersInPlace_of_error merging
  | ok merged =>
      obtain ⟨result, isGranted⟩ := exists_granted updates merging
      rw [settled_ok_iff.mpr isGranted] at ended
      cases ended

/-- A call keeps its promise exactly if no granted activation that updates a row finds
integer keys out of place in its configuration. -/
theorem keepsPromise_iff
    (distinct : ∀ device ∈ session.tenants.kraDevices,
      ((configEntries device.config).map Prod.fst).Nodup) :
    KeepsPromise world session data ↔
      ∀ activation response device,
        readActivation session.tenants (.arr data) = .ok activation →
        activationOutcome world session activation = .ok response →
        UpdatesRow world session.tenants activation response device →
          NumbersInPlace device.config := by
  cases accepted : readActivation session.tenants (.arr data) with
  | error thrown =>
      have threw :
          exec (initializeDevice world data) session = (.error (.php thrown), session) := by
        rw [initializeDevice, exec_bind_ok (exec_get session), accepted, exec_raise_bind_error]
      refine iff_of_true (.inl ?_) (by simp)
      rw [threw]
      exact ⟨⟨_, rfl⟩, rfl⟩
  | ok activation =>
      obtain ⟨calls, ran⟩ := @exec_initializeDevice _ world _ _ session accepted
      cases ended : settled world session.tenants activation
          (activationUrl world session activation) (activationOutcome world session activation) with
      | error thrown =>
          rw [ended] at ran
          refine iff_of_true (.inl ?_) ?_
          · rw [ran]
            exact ⟨⟨thrown, rfl⟩, rfl⟩
          · intro other response device same answered updates
            obtain rfl := Except.ok.inj same
            exact numbersInPlace_of_settled_error ended answered updates
      | ok value =>
          obtain ⟨row, tenants⟩ := value
          have keepsIff := keepsConfig_iff_of_settled distinct ended
          obtain ⟨isYielded, registered⟩ := settled_cases ended
          rw [ended] at ran
          constructor
          · rintro (⟨⟨thrown, threw⟩, -⟩ | ⟨returned, -, isReturned, -, -, -, keeps, -⟩)
            · rw [ran] at threw
              cases threw
            · rw [ran] at isReturned
              obtain rfl : row = returned := Except.ok.inj isReturned
              intro other response device same
              obtain rfl := Except.ok.inj same
              exact keepsIff.mp keeps response device
          · intro inPlace
            refine .inr ⟨row, activation, ?_, accepted, isYielded, ?_, ?_, ?_⟩
            · rw [ran]
              rfl
            · rw [ran]
              exact registered
            · exact keepsIff.mpr fun response device => inPlace activation response device rfl
            · intro world' repeats
              rw [ran] at repeats ⊢
              exact initializeDevice_again accepted ended repeats

end Promise

/-! ## A till with a numbered configuration -/

def grantedBody : String := "\x7b\"sdcId\":\"KRACU0100000001\"\x7d"

/-- KRA grants the activation of the first shop's till. -/
def grantingWorld : World :=
  { Client.offlineWorld with
    jsonDecode := fun body =>
      if body = grantedBody then some (.arr [(.str "sdcId", .str Access.shopTill.kraScuId)])
      else none
    transport := fun _ => .answered ⟨200, grantedBody⟩ }

theorem keepsPromise_iff_shopTill :
    KeepsPromise grantingWorld shopSession tillActivation ↔
      ∀ activation response device,
        readActivation shopSession.tenants (.arr tillActivation) = .ok activation →
        activationOutcome grantingWorld shopSession activation = .ok response →
        UpdatesRow grantingWorld shopSession.tenants activation response device →
          NumbersInPlace device.config := by
  refine keepsPromise_iff fun device isStored => ?_
  have noConfig : device.config = .null := by
    simp only [shopSession, Access.twoShops, List.mem_cons, List.not_mem_nil, or_false] at isStored
    rcases isStored with rfl | rfl <;> rfl
  rw [noConfig]
  exact List.nodup_nil

/-- The till with a value under the key 5 of its configuration. -/
def numberedConfigTill : KraDeviceRow :=
  { Access.shopTill with config := .arr [(.int 5, .str "drawer")] }

def numberedConfigSession : Session id :=
  { shopSession with
    tenants :=
      { Access.twoShops with
        kraDevices := [numberedConfigTill]
        uniqueDeviceId := by decide
        uniqueKraScuId := by decide
        ownerExists := by
          intro device member
          obtain rfl := List.mem_singleton.mp member
          decide } }

/-- Activated again, the till has the value under the key 0. -/
theorem numberedConfigTill_renumbered :
    (∀ device ∈ numberedConfigSession.tenants.kraDevices,
        ((configEntries device.config).map Prod.fst).Nodup) ∧
      ¬ KeepsPromise grantingWorld numberedConfigSession tillActivation := by
  constructor
  · intro device isStored
    obtain rfl := List.mem_singleton.mp isStored
    decide
  · have returned : (exec (initializeDevice grantingWorld tillActivation)
        numberedConfigSession).1 = .ok { numberedConfigTill with
          config := .arr [(.int 0, .str "drawer"), (.str "branch_office_id", .str "00"),
            (.str "initial_activation_raw_response", .str grantedBody),
            (.str "vscu_jar_url_used", .null)] } := by
      rfl
    rintro (⟨⟨thrown, threw⟩, -⟩ | ⟨row, -, isRow, -, -, -, keeps, -⟩)
    · rw [returned] at threw
      cases threw
    · obtain rfl := Except.ok.inj (returned.symm.trans isRow)
      have kept := keeps numberedConfigTill (List.mem_singleton.mpr rfl) rfl (.int 5)
        (.str "drawer") (by decide) (by rfl)
      have lost : (configEntries (.arr [(.int 0, .str "drawer"),
          (.str "branch_office_id", .str "00"),
          (.str "initial_activation_raw_response", .str grantedBody),
          (.str "vscu_jar_url_used", .null)])).lookup (.int 5) = none := by
        rfl
      rw [lost] at kept
      cases kept

end TaxGateway.Devices
