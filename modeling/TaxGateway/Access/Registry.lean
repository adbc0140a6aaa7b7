import TaxGateway.Access.Tenancy

/-!
Contract: which devices a run of requests registers.

Owns:
- that no device loses its id, its taxpayer or its SCU id;
- that a device is registered only by an answered activation, for the taxpayer the
  request names and its client is linked to;
- that every answered activation shows a device that is registered from then on.

Does not own: the status and the configuration of a device.
-/

namespace TaxGateway.Access

open TaxGateway.Php
open TaxGateway.Validation
open TaxGateway.Database
open TaxGateway.Effects
open TaxGateway.Transitions
open TaxGateway.Services
open TaxGateway.Services.KraDeviceService
open TaxGateway.Exceptions
open TaxGateway.Devices
open TaxGateway.Http
open TaxGateway.Client (OnlySends identity)

variable {collate : String → String}

/-! ## What keeps the registry -/

/-- The id, the taxpayer and the SCU id of every device. -/
def registry (tenants : Tenants) : List (String × String × String) :=
  tenants.kraDevices.map identity

def SameRegistry (session session' : Session collate) : Prop :=
  registry session'.tenants = registry session.tenants

instance : IsPreorder (Session collate) SameRegistry where
  refl _ := rfl
  trans _ _ _ := fun first second => Eq.trans second first

/-- No table is changed. -/
def SameTenants (session session' : Session collate) : Prop :=
  session'.tenants = session.tenants

instance : IsPreorder (Session collate) SameTenants where
  refl _ := rfl
  trans _ _ _ := fun first second => Eq.trans second first

section Services

variable {world : World}

theorem sameRegistry_getDeviceStatus (session : Session collate) (row : KraDeviceRow) :
    SameRegistry session (exec (getDeviceStatus world row) session).2 :=
  Client.getDeviceStatus_relates world
    (fun _ _ _ _ onlySends => congrArg registry onlySends.sameTenants)
    fun _ change keepsKeys => Client.identities_update row.id change keepsKeys

theorem sameTenants_processTransaction (kraDevice : KraDevice) (transactionData : Entries) :
    Follows SameTenants (Client.processTransaction world kraDevice transactionData :
      Service collate Transaction) := by
  refine Client.follows_processTransaction world transactionData
    (fun _ _ _ _ onlySends => onlySends.sameTenants) fun xmlPayload response => ?_
  intro session
  rw [Client.exec_recordSale]
  rfl

end Services

/-- An activation. -/
def IsActivation (arrival : Arrival) : Prop :=
  arrival.request.route = .initializeDevice

/-- A status check. -/
def IsCheck (arrival : Arrival) : Prop :=
  arrival.request.route = .endpoint .deviceStatus

section Requests

variable {installation : Installation} {arrival : Arrival} {session : Session collate}

/-- Requests of all other kinds leave the tables as they are. -/
theorem sameTenants_leaves (noActivation : ¬ IsActivation arrival) (noCheck : ¬ IsCheck arrival) :
    SameTenants session (installation.leaves arrival session) := by
  cases isAction : installation.action arrival session with
  | none =>
      rw [leaves_of_noAction isAction]
      exact Std.Refl.refl session
  | some action =>
      rw [leaves_of_action isAction]
      obtain ⟨client, -, isAdmitted⟩ := Option.bind_eq_some_iff.mp isAction
      rcases admitted_cases isAdmitted with ⟨isRoute, -⟩ | ⟨endpoint, device, isRoute, served, rfl⟩
      · exact absurd isRoute noActivation
      · have notCheck : endpoint ≠ .deviceStatus := by
          rintro rfl
          exact noCheck isRoute
        by_cases isSale : endpoint = .processTransaction
        · subst isSale
          apply Follows.get_bind
          exact Client.follows_raise_bind fun _ _ =>
            (sameTenants_processTransaction _ _).bind fun _ => follows_pure _
        · obtain ⟨owner, owns, -⟩ := owns_of_served served
          exact (serve_onlySends owns _ _ isSale notCheck).sameTenants

/-- The action of a check is that of its controller, on the stored device it names. -/
theorem check_of_action (isCheck : IsCheck arrival) {action : Service collate ApiResponse}
    (isAction : installation.action arrival session = some action) :
    ∃ device ∈ session.tenants.kraDevices, device.id = arrival.request.path ∧
      action = KraDeviceController.getStatus arrival.world device := by
  obtain ⟨client, -, isAdmitted⟩ := Option.bind_eq_some_iff.mp isAction
  rcases admitted_cases isAdmitted with ⟨isRoute, -⟩ | ⟨endpoint, device, isRoute, served, rfl⟩
  · exact absurd (isCheck.symm.trans isRoute) (by simp)
  · obtain rfl := Route.endpoint.inj (isCheck.symm.trans isRoute)
    unfold reply at served
    dsimp only at served
    split at served
    next found =>
      obtain rfl := Reply.served.inj served
      obtain ⟨sameId, owner, owns, -⟩ := Tenants.findDevice_eq_some found
      exact ⟨_, owns.isDevice, (Option.some.inj sameId).symm, rfl⟩
    next => cases served

theorem sameRegistry_of_noActivation (noActivation : ¬ IsActivation arrival) :
    SameRegistry session (installation.leaves arrival session) := by
  by_cases isCheck : IsCheck arrival
  · cases isAction : installation.action arrival session with
    | none =>
        rw [leaves_of_noAction isAction]
        exact Std.Refl.refl session
    | some action =>
        obtain ⟨device, -, -, rfl⟩ := check_of_action isCheck isAction
        rw [leaves_of_action isAction, KraDeviceController.getStatus, exec_bind_pure]
        exact sameRegistry_getDeviceStatus session device
  · exact congrArg registry (sameTenants_leaves noActivation isCheck)

/-! ## An activation -/

/-- The request names the taxpayer, and its client is linked to it. -/
structure ActivatesFor (installation : Installation) (arrival : Arrival) (database : Tenants)
    (owner : TaxpayerPin) : Prop where
  named : read arrival.request.input "taxpayerPin" = some (.str owner.pin)
  ofClient : ∃ client, installation.client arrival = some client ∧
    owner ∈ database.linkedPins client

theorem registry_of_settles {world : World} {tenants tenants' : Tenants} {taxpayer : TaxpayerPin}
    {row : KraDeviceRow} (settles : Client.Settles world tenants tenants' taxpayer row) :
    registry tenants' = registry tenants ∨
      row.id = world.uuid ∧ registry tenants' = registry tenants ++ [identity row] := by
  cases settles with
  | inserts inserted hasId isOwned =>
      refine .inr ⟨hasId, ?_⟩
      rw [registry, (insertDevice_cases inserted).1, List.map_append]
      rfl
  | updates id change keepsKeys isOwned updated =>
      rw [updated]
      exact .inl (Client.identities_update id change keepsKeys)
  | keeps same => exact .inl (congrArg registry same)

/-- An activation fails and changes no table, or is answered with a device of the named
taxpayer that is registered now, if it was not before. -/
theorem activation_cases (isActivation : IsActivation arrival) :
    (installation.leaves arrival session).tenants = session.tenants ∧
        (∃ response, installation.exit arrival session = .failed response) ∨
      ∃ row owner, ActivatesFor installation arrival session.tenants owner ∧
        installation.exit arrival session =
          .answered (KraDeviceController.activatedResponse row) ∧
        Registered session.tenants (installation.leaves arrival session).tenants owner
          row.kraScuId row ∧
        (SameRegistry session (installation.leaves arrival session) ∨
          row.id = arrival.world.uuid ∧
            registry (installation.leaves arrival session).tenants =
              registry session.tenants ++ [identity row]) := by
  cases isAction : installation.action arrival session with
  | none =>
      exact .inl ⟨congrArg Session.tenants (leaves_of_noAction isAction),
        failed_of_noAction (.inl isActivation) isAction⟩
  | some action =>
      obtain ⟨attributes, ended⟩ := exit_of_action isAction
      obtain ⟨client, known, isAdmitted⟩ := Option.bind_eq_some_iff.mp isAction
      rcases admitted_cases isAdmitted with
        ⟨-, authorized, valid, rfl⟩ | ⟨endpoint, device, isRoute, -⟩
      · rw [leaves_of_action isAction, ended, KraDeviceController.initializeKraDevice,
          exec_bind_ok (exec_get session), exec_bind_pure]
        cases accepted : readActivation session.tenants (.arr
            (KraDeviceController.initializeData session.tenants arrival.request.input)) with
        | error thrown =>
            rw [Client.exec_initializeDevice_of_unread accepted]
            exact .inl ⟨rfl, _, rfl⟩
        | ok activation =>
            obtain ⟨linked, named⟩ := linked_of_activation authorized valid accepted
            rw [exec_initializeDevice_of_sent accepted]
            cases isSettled : settled arrival.world session.tenants activation
                (activationUrl arrival.world session activation)
                (activationOutcome arrival.world session activation) with
            | error thrown => exact .inl ⟨rfl, _, rfl⟩
            | ok value =>
                exact .inr ⟨value.1, activation.taxpayerPin, ⟨named, client, known, linked⟩,
                  rfl, (settled_cases isSettled).2,
                  registry_of_settles (Client.settles_settled isSettled)⟩
      · exact absurd (isActivation.symm.trans isRoute) (by simp)

end Requests

/-! ## Runs -/

section Runs

variable {installation : Installation}

/-- What an answered activation shows: a device of the taxpayer it was asked for. -/
structure Shows (installation : Installation) (database : Tenants) (entry : Arrival × Exit)
    (row : KraDeviceRow) : Prop where
  isActivation : IsActivation entry.1
  answered : entry.2 = .answered (KraDeviceController.activatedResponse row)
  ofOwner : ∃ owner, ActivatesFor installation entry.1 database owner ∧
    row.taxpayerPinId = owner.id

/-- Devices and answers account for one another: nothing is taken from the registry; what
is added was shown by an answer, under the id its request was given; and what an answer
has shown stays registered. -/
structure Registers (installation : Installation) (start : Session collate)
    (server : Server collate) : Prop where
  devices : ∃ added, registry server.session.tenants = registry start.tenants ++ added ∧
    ∀ device ∈ added, ∃ entry ∈ server.exits, ∃ row,
      Shows installation start.tenants entry row ∧ row.id = entry.1.world.uuid ∧
      identity row = device
  answers : ∀ entry ∈ server.exits, IsActivation entry.1 →
    ∀ response, entry.2 = .answered response →
      ∃ row, Shows installation start.tenants entry row ∧ row.status = .ACTIVATED ∧
        response = KraDeviceController.activatedResponse row ∧
        identity row ∈ registry server.session.tenants
  sameTaxpayers : server.session.tenants.taxpayerPins = start.tenants.taxpayerPins
  sameLinks : server.session.tenants.apiClientTaxpayerPin = start.tenants.apiClientTaxpayerPin

/-- Links are what they were at the start. -/
theorem Registers.activatesFor {start : Session collate} {server : Server collate}
    (registers : Registers installation start server) {arrival : Arrival} {owner : TaxpayerPin}
    (activates : ActivatesFor installation arrival server.session.tenants owner) :
    ActivatesFor installation arrival start.tenants owner := by
  obtain ⟨named, client, known, linked⟩ := activates
  refine ⟨named, client, known, ?_⟩
  unfold Tenants.linkedPins at linked ⊢
  rw [← registers.sameTaxpayers, ← registers.sameLinks]
  exact linked

/-- A request that is no answered activation. -/
theorem Registers.step_same {start : Session collate} {server : Server collate}
    (registers : Registers installation start server) {arrival : Arrival} {exit : Exit}
    (same : SameRegistry server.session (installation.leaves arrival server.session))
    (unanswered : IsActivation arrival → ∃ response, exit = .failed response) :
    Registers installation start
      ⟨installation.leaves arrival server.session, server.exits ++ [(arrival, exit)]⟩ := by
  obtain ⟨sameTaxpayers, sameLinks⟩ := samePermissions_leaves installation arrival server.session
  refine ⟨?_, ?_, sameTaxpayers.trans registers.sameTaxpayers,
    sameLinks.trans registers.sameLinks⟩
  · obtain ⟨added, devices, each⟩ := registers.devices
    refine ⟨added, Eq.trans same devices, fun device isAdded => ?_⟩
    obtain ⟨entry, isEntry, shown⟩ := each device isAdded
    exact ⟨entry, List.mem_append_left _ isEntry, shown⟩
  · intro entry isEntry isActivation response answered
    show ∃ row, _ ∧ _ ∧ _ ∧
      identity row ∈ registry (installation.leaves arrival server.session).tenants
    rw [show registry (installation.leaves arrival server.session).tenants =
      registry server.session.tenants from same]
    rcases List.mem_append.mp isEntry with isOld | isNew
    · exact registers.answers entry isOld isActivation response answered
    · obtain rfl := List.mem_singleton.mp isNew
      obtain ⟨other, failed⟩ := unanswered isActivation
      rw [show exit = .answered response from answered] at failed
      cases failed

/-- An answered activation. -/
theorem Registers.step_answered {start : Session collate} {server : Server collate}
    (registers : Registers installation start server) {arrival : Arrival} {row : KraDeviceRow}
    {owner : TaxpayerPin} (isActivation : IsActivation arrival)
    (activates : ActivatesFor installation arrival server.session.tenants owner)
    (registered : Registered server.session.tenants
      (installation.leaves arrival server.session).tenants owner row.kraScuId row)
    (adds : SameRegistry server.session (installation.leaves arrival server.session) ∨
      row.id = arrival.world.uuid ∧
        registry (installation.leaves arrival server.session).tenants =
          registry server.session.tenants ++ [identity row]) :
    Registers installation start
      ⟨installation.leaves arrival server.session,
        server.exits ++ [(arrival, .answered (KraDeviceController.activatedResponse row))]⟩ := by
  obtain ⟨sameTaxpayers, sameLinks⟩ := samePermissions_leaves installation arrival server.session
  have isShown : Shows installation start.tenants
      (arrival, .answered (KraDeviceController.activatedResponse row)) row :=
    ⟨isActivation, rfl, owner, registers.activatesFor activates, registered.isOwned⟩
  have stays : ∀ device ∈ registry server.session.tenants,
      device ∈ registry (installation.leaves arrival server.session).tenants := by
    intro device isStored
    rcases adds with same | ⟨-, added⟩
    · rw [show registry (installation.leaves arrival server.session).tenants =
        registry server.session.tenants from same]
      exact isStored
    · rw [added]
      exact List.mem_append_left _ isStored
  refine ⟨?_, ?_, sameTaxpayers.trans registers.sameTaxpayers,
    sameLinks.trans registers.sameLinks⟩
  · obtain ⟨added, devices, each⟩ := registers.devices
    rcases adds with same | ⟨hasId, isAdded⟩
    · refine ⟨added, Eq.trans same devices, fun device member => ?_⟩
      obtain ⟨entry, isEntry, shown⟩ := each device member
      exact ⟨entry, List.mem_append_left _ isEntry, shown⟩
    · refine ⟨added ++ [identity row], ?_, fun device member => ?_⟩
      · rw [isAdded, devices, List.append_assoc]
      · rcases List.mem_append.mp member with wasAdded | isRow
        · obtain ⟨entry, isEntry, shown⟩ := each device wasAdded
          exact ⟨entry, List.mem_append_left _ isEntry, shown⟩
        · obtain rfl := List.mem_singleton.mp isRow
          exact ⟨_, List.mem_append_right _ List.mem_cons_self, row, isShown, hasId, rfl⟩
  · intro entry isEntry isActivation' response answered
    rcases List.mem_append.mp isEntry with isOld | isNew
    · obtain ⟨other, shown, isActivated, isAnswer, isListed⟩ :=
        registers.answers entry isOld isActivation' response answered
      exact ⟨other, shown, isActivated, isAnswer, stays _ isListed⟩
    · obtain rfl := List.mem_singleton.mp isNew
      exact ⟨row, isShown, registered.isActivated, (Exit.answered.inj answered).symm,
        List.mem_map_of_mem registered.isStored⟩

theorem registers_step {start : Session collate} {server server' : Server collate}
    {arrival : Arrival} (registers : Registers installation start server)
    (stepped : step installation server arrival = some server') :
    Registers installation start server' := by
  obtain rfl := Option.some.inj stepped
  by_cases isActivation : IsActivation arrival
  · rcases activation_cases isActivation with
      ⟨same, failed⟩ | ⟨row, owner, activates, answered, registered, adds⟩
    · exact registers.step_same (congrArg registry same) fun _ => failed
    · rw [answered]
      exact registers.step_answered isActivation activates registered adds
  · exact registers.step_same (sameRegistry_of_noActivation isActivation)
      fun isActivation' => absurd isActivation' isActivation

/-- An answer tells the id and the SCU id of its device. -/
theorem eq_of_activatedResponse {row other : KraDeviceRow}
    (same : KraDeviceController.activatedResponse row =
      KraDeviceController.activatedResponse other) :
    row.id = other.id ∧ row.kraScuId = other.kraScuId := by
  simp only [KraDeviceController.activatedResponse, jsonResponse, List.map_cons, List.map_nil,
    ApiResponse.mk.injEq, Option.some.injEq, Value.arr.injEq, List.cons.injEq, Prod.mk.injEq,
    Value.str.injEq, true_and] at same
  exact ⟨same.1, same.2.1⟩

/-- Two answers with one SCU id show one device. -/
theorem Registers.sameDevice {start : Session collate} {server : Server collate}
    (registers : Registers installation start server) {entry entry' : Arrival × Exit}
    (isEntry : entry ∈ server.exits) (isEntry' : entry' ∈ server.exits)
    {row row' : KraDeviceRow} (isShown : Shows installation start.tenants entry row)
    (isShown' : Shows installation start.tenants entry' row')
    (sameScuId : row.kraScuId = row'.kraScuId) : row.id = row'.id := by
  obtain ⟨stored, -, -, isStored, member⟩ :=
    registers.answers entry isEntry isShown.isActivation _ isShown.answered
  obtain ⟨stored', -, -, isStored', member'⟩ :=
    registers.answers entry' isEntry' isShown'.isActivation _ isShown'.answered
  obtain ⟨sameId, hasScuId⟩ := eq_of_activatedResponse isStored
  obtain ⟨sameId', hasScuId'⟩ := eq_of_activatedResponse isStored'
  obtain ⟨device, isDevice, isIdentity⟩ := List.mem_map.mp member
  obtain ⟨device', isDevice', isIdentity'⟩ := List.mem_map.mp member'
  have ofDevice : device.id = stored.id ∧ device.kraScuId = stored.kraScuId := by
    simp only [identity, Prod.mk.injEq] at isIdentity
    exact ⟨isIdentity.1, isIdentity.2.2⟩
  have ofDevice' : device'.id = stored'.id ∧ device'.kraScuId = stored'.kraScuId := by
    simp only [identity, Prod.mk.injEq] at isIdentity'
    exact ⟨isIdentity'.1, isIdentity'.2.2⟩
  have same : device = device' := by
    apply eq_of_sameScuId isDevice' isDevice
    rw [ofDevice.2, ofDevice'.2, ← hasScuId, ← hasScuId', sameScuId]
  rw [sameId, sameId', ← ofDevice.1, ← ofDevice'.1, same]

/-- In every run the registered devices and the answers account for one another, and an SCU
id is answered with one device only. -/
theorem registers_of_run {session : Session collate} {server : Server collate}
    {arrivals : List Arrival}
    (ran : run (step installation) ⟨session, []⟩ arrivals = some server) :
    Registers installation session server ∧
      ∀ entry ∈ server.exits, ∀ entry' ∈ server.exits, ∀ row row' : KraDeviceRow,
        Shows installation session.tenants entry row →
        Shows installation session.tenants entry' row' →
        row.kraScuId = row'.kraScuId → row.id = row'.id := by
  have atStart : Registers installation session ⟨session, []⟩ :=
    ⟨⟨[], by simp, by simp⟩, by simp, rfl, rfl⟩
  have registers : Registers installation session server :=
    run_invariant (fun _ _ _ held stepped => registers_step held stepped) atStart ran
  exact ⟨registers, fun entry isEntry entry' isEntry' row row' isShown isShown' sameScuId =>
    registers.sameDevice isEntry isEntry' isShown isShown' sameScuId⟩

end Runs

/-! ### A new till -/

/-- KRA grants the activation of a device that nobody has. -/
def newTillWorld : World :=
  { Client.offlineWorld with
    uuid := "16fd2706-8baf-433b-82eb-8c7fada847da"
    jsonDecode := fun body =>
      if body = "granted" then some (.arr [(.str "sdcId", .str "KRACU0100000003")]) else none
    transport := fun _ => .answered ⟨200, "granted"⟩ }

/-- The first shop activates a new till, twice. -/
def newTillTwice : Option (Server id) :=
  run (step shopInstallation) ⟨shopSession, []⟩
    [shopArrival newTillWorld .initializeDevice tillActivation,
      shopArrival newTillWorld .initializeDevice tillActivation]

theorem newTillTwice_returns : newTillTwice.isSome = true := by
  rfl

/-- The theorem at that run. -/
theorem registers_of_run_newTillTwice :
    let server := newTillTwice.get newTillTwice_returns
    Registers shopInstallation shopSession server ∧
      ∀ entry ∈ server.exits, ∀ entry' ∈ server.exits, ∀ row row' : KraDeviceRow,
        Shows shopInstallation shopSession.tenants entry row →
        Shows shopInstallation shopSession.tenants entry' row' →
        row.kraScuId = row'.kraScuId → row.id = row'.id :=
  registers_of_run (Option.some_get newTillTwice_returns).symm

end TaxGateway.Access
