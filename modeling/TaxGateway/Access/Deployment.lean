import TaxGateway.Access.Registry
import TaxGateway.Access.SaleCalls
import TaxGateway.Sales.SentJobs
import TaxGateway.Sales.Workers

/-!
Contract: the API and the workers of the queue together, as a run of the gateway machine.

Owns:
- a deployment: requests that are answered one after another, with steps of the workers
  between them, on the same tables and the same queue;
- that in every run the tables, the queue and the journaling are those of a run of the
  machine, and the answers to sales those of its calls;
- what follows for sales: each answer shows a receipt of its own that is in the table, and
  the workers have to do with the receipts of answered sales only.

Does not own: requests that run at the same time.
-/

namespace TaxGateway.Access

open TaxGateway.Database
open TaxGateway.Transitions
open TaxGateway.Services
open TaxGateway.Http
open TaxGateway.Client (identity)
open TaxGateway.Sales (Setting System)

variable {collate : String → String}

/-! ## Devices -/

/-- `$transaction->kraDevice`. A foreign key keeps it from being `null`. -/
def deviceOf (tenants : Tenants) (id : String) : KraDevice :=
  match tenants.kraDevices.find? fun device => device.id = id with
  | some device => tenants.kraDevice device
  | none => ⟨id, "", "", .null, none⟩

/-- Taxpayers stay, and devices keep their id and their taxpayer. -/
structure Grows (tenants tenants' : Tenants) : Prop where
  sameTaxpayers : tenants'.taxpayerPins = tenants.taxpayerPins
  keepsDevices : registry tenants <+: registry tenants'

instance : IsPreorder Tenants Grows where
  refl _ := ⟨rfl, List.prefix_rfl⟩
  trans _ _ _ := fun first second =>
    ⟨second.sameTaxpayers.trans first.sameTaxpayers,
      first.keepsDevices.trans second.keepsDevices⟩

section Devices

variable {tenants tenants' : Tenants}

/-- A stored device is found under its id. -/
theorem deviceOf_of_mem {device : KraDeviceRow} (isStored : device ∈ tenants.kraDevices) :
    deviceOf tenants device.id = tenants.kraDevice device := by
  unfold deviceOf
  cases found : tenants.kraDevices.find? fun other => other.id = device.id with
  | none => simpa using List.find?_eq_none.mp found device isStored
  | some other =>
      have sameId : other.id = device.id := by simpa using List.find?_some found
      obtain rfl := List.inj_on_of_nodup_map tenants.uniqueDeviceId
        (List.mem_of_find?_eq_some found) isStored sameId
      rfl

/-- A device stays, with its id and its taxpayer. -/
theorem Grows.exists_device (grows : Grows tenants tenants') {device : KraDeviceRow}
    (isStored : device ∈ tenants.kraDevices) :
    ∃ later ∈ tenants'.kraDevices, later.id = device.id ∧
      later.taxpayerPinId = device.taxpayerPinId := by
  have isRegistered : identity device ∈ registry tenants := List.mem_map_of_mem isStored
  obtain ⟨later, isLater, same⟩ :=
    List.mem_map.mp (grows.keepsDevices.subset isRegistered)
  simp only [identity, Prod.mk.injEq] at same
  exact ⟨later, isLater, same.1, same.2.1⟩

/-- So it keeps its PIN. -/
theorem pin_deviceOf (grows : Grows tenants tenants') {device : KraDeviceRow}
    (isStored : device ∈ tenants.kraDevices) :
    (deviceOf tenants' device.id).pin = (deviceOf tenants device.id).pin := by
  obtain ⟨later, isLater, sameId, sameTaxpayer⟩ := grows.exists_device isStored
  rw [deviceOf_of_mem isStored, ← sameId, deviceOf_of_mem isLater]
  simp only [KraDevice.pin, Tenants.kraDevice, sameTaxpayer, grows.sameTaxpayers]

end Devices

/-- No request takes a device from its taxpayer. -/
theorem grows_leaves (installation : Installation) (arrival : Arrival)
    (session : Session collate) :
    Grows session.tenants (installation.leaves arrival session).tenants := by
  refine ⟨(samePermissions_leaves installation arrival session).1, ?_⟩
  by_cases isActivation : IsActivation arrival
  · rcases @activation_cases _ installation _ session isActivation with
      ⟨same, -⟩ | ⟨row, owner, -, -, -, same | ⟨-, added⟩⟩
    · rw [same]
    · exact (show registry _ = registry _ from same) ▸ List.prefix_rfl
    · rw [added]
      exact List.prefix_append _ _
  · have same : registry _ = registry _ :=
      @sameRegistry_of_noActivation _ installation _ session isActivation
    rw [same]

/-! ## Deployments -/

/-- The API, with the attempts of the workers and their calls of `failed`. -/
structure Deployment (collate : String → String) where
  server : Server collate
  attempts : String → List Journaling.Attempt
  failedCalls : String → List Journaling.FailedCall

inductive Event where
  | arrives (arrival : Arrival)
  /-- A step of a worker. -/
  | works (label : Sales.Label)

/-- The devices as a worker loads them. -/
def loading (setting : Setting) (tenants : Tenants) : Setting :=
  { setting with kraDevice := deviceOf tenants }

namespace Deployment

variable (deployment : Deployment collate)

def session : Session collate := deployment.server.session

/-- What the workers see: a gateway without calls. -/
def system : System collate where
  transactions := deployment.session.gateway.transactions
  jobs := deployment.session.gateway.jobs
  calls := []
  signatures := []
  attempts := deployment.attempts
  failedCalls := deployment.failedCalls

/-- The deployment after a request. -/
def arrived (installation : Installation) (arrival : Arrival) : Deployment collate :=
  { deployment with
    server :=
      ⟨installation.leaves arrival deployment.session,
        deployment.server.exits ++ [(arrival, installation.exit arrival deployment.session)]⟩ }

/-- The deployment after a step of a worker. -/
def worked (system : System collate) : Deployment collate where
  server :=
    { deployment.server with
      session :=
        { deployment.session with
          gateway := ⟨system.transactions, system.jobs, deployment.session.gateway.kraApi⟩ } }
  attempts := system.attempts
  failedCalls := system.failedCalls

def step (installation : Installation) (setting : Setting) (deployment : Deployment collate) :
    Event → Option (Deployment collate)
  | .arrives arrival =>
      (Access.step installation deployment.server arrival).map fun server =>
        { deployment with server := server }
  | .works label =>
      if label.isWork then
        (deployment.system.step (loading setting deployment.session.tenants) label).map
          deployment.worked
      else none

variable {deployment} {installation : Installation} {setting : Setting}
  {next : Deployment collate}

theorem step_arrives {arrival : Arrival}
    (stepped : deployment.step installation setting (.arrives arrival) = some next) :
    next = deployment.arrived installation arrival :=
  (Option.some.inj stepped).symm

theorem exits_arrived (arrival : Arrival) :
    (deployment.arrived installation arrival).server.exits =
      deployment.server.exits ++
        [(arrival, installation.exit arrival deployment.session)] := rfl

theorem step_works {label : Sales.Label}
    (stepped : deployment.step installation setting (.works label) = some next) :
    label.isWork = true ∧ ∃ after,
      deployment.system.step (loading setting deployment.session.tenants) label = some after ∧
        next = deployment.worked after := by
  simp only [step] at stepped
  split at stepped
  next isWork =>
    obtain ⟨after, worked, rfl⟩ := Option.map_eq_some_iff.mp stepped
    exact ⟨isWork, after, worked, rfl⟩
  next => cases stepped

end Deployment

/-! ### Devices of receipts -/

/-- The foreign key: every receipt is of a registered device. -/
def Referenced (session : Session collate) : Prop :=
  ∀ transaction ∈ session.gateway.transactions.stored,
    ∃ device ∈ session.tenants.kraDevices, device.id = transaction.kraDeviceId

section Steps

variable {installation : Installation} {setting : Setting} {deployment next : Deployment collate}
  {system : System collate} {tenants : Tenants}

/-- A request records receipts of stored devices only. -/
theorem referenced_leaves {session : Session collate} (referenced : Referenced session)
    (arrival : Arrival) : Referenced (installation.leaves arrival session) := by
  have grows := grows_leaves installation arrival session
  have stays : ∀ id, (∃ device ∈ session.tenants.kraDevices, device.id = id) →
      ∃ device ∈ (installation.leaves arrival session).tenants.kraDevices, device.id = id := by
    rintro id ⟨device, isStored, rfl⟩
    obtain ⟨later, isLater, sameId, -⟩ := grows.exists_device isStored
    exact ⟨later, isLater, sameId⟩
  intro other isStored
  rcases rows_cases installation arrival session with
    same | ⟨transaction, -, -, ⟨device, isDevice, ofDevice, -⟩, stored⟩
  · rw [same] at isStored
    exact stays _ (referenced other isStored)
  · rw [stored] at isStored
    rcases List.mem_append.mp isStored with isOld | isNew
    · exact stays _ (referenced other isOld)
    · rw [List.mem_singleton.mp isNew]
      exact stays _ ⟨device, isDevice, ofDevice⟩

/-- A worker leaves the receipts with their devices. -/
theorem referenced_worked (referenced : Referenced deployment.session) {label : Sales.Label}
    (isWork : label.isWork = true) {after : System collate}
    (stepped : deployment.system.step setting label = some after) :
    Referenced (deployment.worked after).session := by
  intro transaction isStored
  have isReceipt : Sales.receipt transaction ∈ after.receipts := List.mem_map_of_mem isStored
  rw [Sales.receipts_of_work isWork stepped] at isReceipt
  obtain ⟨old, wasStored, same⟩ := List.mem_map.mp isReceipt
  have sameDevice := congrArg Transaction.kraDeviceId same
  rw [← show old.kraDeviceId = transaction.kraDeviceId from sameDevice]
  exact referenced old wasStored

/-- Whatever happens, devices keep their taxpayers, and receipts their devices. -/
theorem kept_step {event : Event} (referenced : Referenced deployment.session)
    (stepped : deployment.step installation setting event = some next) :
    Grows deployment.session.tenants next.session.tenants ∧ Referenced next.session := by
  cases event with
  | arrives arrival =>
      obtain rfl := Deployment.step_arrives stepped
      exact ⟨grows_leaves installation arrival deployment.session,
        referenced_leaves referenced arrival⟩
  | works label =>
      obtain ⟨isWork, after, worked, rfl⟩ := Deployment.step_works stepped
      exact ⟨Std.Refl.refl _, referenced_worked referenced isWork worked⟩

/-! ### Steps -/

/-- The deployment is the machine's, but for how it holds its calls: it has the answers to
those that have returned. -/
structure Mirrors (kraApi : KraApi) (deployment : Deployment collate) (system : System collate) :
    Prop where
  shares : Shares kraApi deployment.session system
  sameAttempts : system.attempts = deployment.attempts
  sameFailedCalls : system.failedCalls = deployment.failedCalls
  answers : deployment.server.exits.filterMap saleAnswer? =
    system.calls.filterMap fun call => answerAt call.phase
  calls : ∀ call ∈ system.calls, ∃ entry ∈ deployment.server.exits, CallOf entry.1 call

/-- A request that is nothing to the machine. -/
theorem Mirrors.of_same {kraApi : KraApi} (mirrors : Mirrors kraApi deployment system)
    {arrival : Arrival}
    (same : SameReceipts deployment.session (installation.leaves arrival deployment.session))
    (unanswered : saleAnswer? (arrival, installation.exit arrival deployment.session) = none) :
    Mirrors kraApi (deployment.arrived installation arrival) system := by
  have sameClient := @sameClient_leaves _ installation arrival deployment.session
  refine ⟨⟨?_, ?_, ?_⟩, mirrors.sameAttempts, mirrors.sameFailedCalls, ?_, ?_⟩
  · exact mirrors.shares.sameTransactions.trans same.sameTransactions.symm
  · exact mirrors.shares.sameJobs.trans same.sameJobs.symm
  · exact fun url => (sameClient url).trans (mirrors.shares.sameClient url)
  · rw [Deployment.exits_arrived, List.filterMap_append, ← mirrors.answers]
    simp [unanswered]
  · intro call isCall
    obtain ⟨entry, isEntry, ofEntry⟩ := mirrors.calls call isCall
    exact ⟨entry, List.mem_append_left _ isEntry, ofEntry⟩

/-- A request is run by the machine: as a call, or not at all. -/
theorem mirrors_arrives (reports : ReportsSales installation) {arrival : Arrival}
    (under : RunsUnder setting arrival) (mirrors : Mirrors setting.kraApi deployment system) :
    ∃ labels system', run (System.step setting) system labels = some system' ∧
      Mirrors setting.kraApi (deployment.arrived installation arrival) system' := by
  by_cases isSale : IsSale arrival
  · rcases call_of_sale reports under mirrors.shares isSale with
      ⟨same, response, failed⟩ | ⟨labels, call, ofArrival, ran, answered⟩
    · refine ⟨[], system, rfl, mirrors.of_same same ?_⟩
      rw [failed, saleAnswer?_failed]
    · have sameClient := @sameClient_leaves _ installation arrival deployment.session
      refine ⟨labels, _, ran, ⟨rfl, rfl, ?_⟩, mirrors.sameAttempts, mirrors.sameFailedCalls,
        ?_, ?_⟩
      · exact fun url => (sameClient url).trans (mirrors.shares.sameClient url)
      · rw [Deployment.exits_arrived, List.filterMap_append, List.filterMap_append,
          mirrors.answers]
        simp only [List.filterMap_cons, List.filterMap_nil, answered]
      · intro other isCall
        rcases List.mem_append.mp isCall with isOld | isNew
        · obtain ⟨entry, isEntry, ofEntry⟩ := mirrors.calls other isOld
          exact ⟨entry, List.mem_append_left _ isEntry, ofEntry⟩
        · obtain rfl := List.mem_singleton.mp isNew
          exact ⟨_, List.mem_append_right _ List.mem_cons_self, ofArrival⟩
  · exact ⟨[], system, rfl,
      mirrors.of_same (sameReceipts_of_noSale isSale) (saleAnswer?_of_noSale isSale _)⟩

/-- A step of a worker is the same step of the machine, also if it loads the devices from
tables that have grown. -/
theorem mirrors_works {label : Sales.Label} (isWork : label.isWork = true)
    (referenced : Referenced deployment.session)
    (grows : Grows deployment.session.tenants tenants)
    (mirrors : Mirrors setting.kraApi deployment system) {after : System collate}
    (stepped : deployment.system.step (loading setting deployment.session.tenants) label =
      some after) :
    ∃ system', System.step (loading setting tenants) system label = some system' ∧
      Mirrors setting.kraApi (deployment.worked after) system' := by
  have alike : Sales.WorksAlike (loading setting deployment.session.tenants)
      (loading setting tenants) deployment.system := by
    refine ⟨rfl, rfl, fun transaction isStored => ?_⟩
    obtain ⟨device, isDevice, ofDevice⟩ := referenced transaction isStored
    rw [← ofDevice]
    exact pin_deviceOf grows isDevice
  have seen : system =
      { deployment.system with calls := system.calls, signatures := system.signatures } := by
    rw [Deployment.system, ← mirrors.shares.sameTransactions, ← mirrors.shares.sameJobs,
      ← mirrors.sameAttempts, ← mirrors.sameFailedCalls]
  refine ⟨{ after with calls := system.calls, signatures := system.signatures }, ?_,
    ⟨rfl, rfl, mirrors.shares.sameClient⟩, rfl, rfl, mirrors.answers, mirrors.calls⟩
  rw [seen, Sales.step_withCalls isWork, Sales.step_eq_of_worksAlike isWork alike, stepped]
  rfl

end Steps

/-! ## Runs -/

section Runs

variable {installation : Installation} {setting : Setting} {start final : Deployment collate}
  {events : List Event}

theorem grows_of_run (referenced : Referenced start.session)
    (ran : run (Deployment.step installation setting) start events = some final) :
    Grows start.session.tenants final.session.tenants ∧ Referenced final.session := by
  have carried : ∀ (source : Deployment collate) event (target : Deployment collate),
      Grows start.session.tenants source.session.tenants ∧ Referenced source.session →
      Deployment.step installation setting source event = some target →
      Grows start.session.tenants target.session.tenants ∧ Referenced target.session := by
    intro source event target held stepped
    obtain ⟨grows, kept⟩ := kept_step held.2 stepped
    exact ⟨IsTrans.trans _ _ _ held.1 grows, kept⟩
  exact run_invariant carried ⟨Std.Refl.refl _, referenced⟩ ran

/-- What the deployment is at the start, the machine's, it is after every run. -/
theorem mirrors_of_run {system : System collate} (reports : ReportsSales installation)
    (under : ∀ arrival, .arrives arrival ∈ events → RunsUnder setting arrival)
    (referenced : Referenced start.session) (mirrors : Mirrors setting.kraApi start system)
    (ran : run (Deployment.step installation setting) start events = some final) :
    ∃ labels reached,
      run (System.step (loading setting final.session.tenants)) system labels = some reached ∧
        Mirrors setting.kraApi final reached := by
  induction events generalizing start system with
  | nil =>
      obtain rfl := Option.some.inj ran
      exact ⟨[], system, rfl, mirrors⟩
  | cons event rest inductionHypothesis =>
      rw [run_cons] at ran
      obtain ⟨next, stepped, ranRest⟩ := Option.bind_eq_some_iff.mp ran
      obtain ⟨grows, kept⟩ := kept_step referenced stepped
      have later : ∀ arrival, .arrives arrival ∈ rest → RunsUnder setting arrival :=
        fun arrival isLater => under arrival (List.mem_cons_of_mem _ isLater)
      -- Workers load the devices of the tables as they are; the machine has those of the end.
      have growsLater := (grows_of_run kept ranRest).1
      have first : ∃ labels between,
          run (System.step (loading setting final.session.tenants)) system labels =
              some between ∧ Mirrors setting.kraApi next between := by
        cases event with
        | arrives arrival =>
            obtain rfl := Deployment.step_arrives stepped
            have underFirst := under arrival List.mem_cons_self
            exact @mirrors_arrives _ installation (loading setting final.session.tenants) start
              system reports arrival ⟨underFirst.samePlatform, underFirst.sameConfig⟩ mirrors
        | works label =>
            obtain ⟨isWork, after, worked, rfl⟩ := Deployment.step_works stepped
            obtain ⟨between, ranFirst, mirrored⟩ := mirrors_works isWork referenced
              (IsTrans.trans _ _ _ grows growsLater) mirrors worked
            exact ⟨[label], between, (run_singleton _ _ _).trans ranFirst, mirrored⟩
      obtain ⟨labels, between, ranFirst, mirrored⟩ := first
      obtain ⟨others, reached, ranOthers, atEnd⟩ :=
        inductionHypothesis later kept mirrored ranRest
      refine ⟨labels ++ others, reached, ?_, atEnd⟩
      rw [run_append, ranFirst]
      exact ranOthers

/-! ### Answered sales -/

/-- A gateway that has done nothing yet. -/
def fresh (tenants : Tenants) (kraApi : KraApi) : Deployment collate where
  server := ⟨⟨⟨.empty collate, [], kraApi⟩, tenants, []⟩, []⟩
  attempts _ := []
  failedCalls _ := []

theorem mirrors_fresh (tenants : Tenants) (kraApi : KraApi) :
    Mirrors kraApi (fresh tenants kraApi : Deployment collate)
      (.idle (.empty collate) []) where
  shares := ⟨rfl, rfl, fun _ => rfl⟩
  sameAttempts := rfl
  sameFailedCalls := rfl
  answers := rfl
  calls := by simp [System.idle]

/-- A gateway that has done nothing yet is the idle machine, and stays the machine's. -/
theorem mirrors_of_run_fresh {tenants : Tenants} (reports : ReportsSales installation)
    (under : ∀ arrival, .arrives arrival ∈ events → RunsUnder setting arrival)
    (ran : run (Deployment.step installation setting)
      (fresh tenants setting.kraApi : Deployment collate) events = some final) :
    ∃ labels reached,
      run (System.step (loading setting final.session.tenants)) (.idle (.empty collate) [])
          labels = some reached ∧
        Mirrors setting.kraApi final reached := by
  have referenced : Referenced (fresh tenants setting.kraApi : Deployment collate).session := by
    intro transaction isStored
    cases isStored
  exact mirrors_of_run reports under referenced (mirrors_fresh tenants setting.kraApi) ran

/-- The API and its workers run the gateway machine. In whatever order requests arrive and
workers take steps, table, queue, attempts and calls of `failed` are those of a run of the
machine; its calls are made by sales, and those that have returned are the answers that the
sales were given. -/
theorem gateway_run_of_run {tenants : Tenants} (reports : ReportsSales installation)
    (under : ∀ arrival, .arrives arrival ∈ events → RunsUnder setting arrival)
    (ran : run (Deployment.step installation setting)
      (fresh tenants setting.kraApi : Deployment collate) events = some final) :
    ∃ labels reached,
      run (System.step (loading setting final.session.tenants)) (.idle (.empty collate) [])
          labels = some reached ∧
        reached.transactions = final.session.gateway.transactions ∧
        reached.jobs = final.session.gateway.jobs ∧
        reached.attempts = final.attempts ∧ reached.failedCalls = final.failedCalls ∧
        final.server.exits.filterMap saleAnswer? =
          reached.calls.filterMap (fun call => answerAt call.phase) ∧
        ∀ call ∈ reached.calls, ∃ entry ∈ final.server.exits, CallOf entry.1 call := by
  obtain ⟨labels, reached, ranMachine, mirrors⟩ := mirrors_of_run_fresh reports under ran
  refine ⟨labels, reached, ranMachine, ?_, ?_, ?_, ?_, ?_, ?_⟩
  · exact mirrors.shares.sameTransactions
  · exact mirrors.shares.sameJobs
  · exact mirrors.sameAttempts
  · exact mirrors.sameFailedCalls
  · exact mirrors.answers
  · exact mirrors.calls

/-- The answers show what the calls have returned. -/
theorem Mirrors.shown {kraApi : KraApi} {deployment : Deployment collate}
    {system : System collate} (mirrors : Mirrors kraApi deployment system) :
    deployment.server.exits.filterMap saleAnswer? =
      system.returned.map KraSalesController.signedResponse := by
  rw [mirrors.answers, System.returned, List.map_filterMap]
  apply List.filterMap_congr
  intro call _
  cases call.phase <;> rfl

/-- What the machine leaves alone, the workers do. -/
theorem Mirrors.untouched {kraApi : KraApi} {deployment : Deployment collate}
    {system : System collate} (mirrors : Mirrors kraApi deployment system) {id : String}
    (untouched : system.Untouched id) : deployment.system.Untouched id := by
  obtain ⟨notQueued, noAttempts, noFailedCalls, asCreated⟩ := untouched
  rw [mirrors.shares.sameJobs] at notQueued
  rw [mirrors.sameAttempts] at noAttempts
  rw [mirrors.sameFailedCalls] at noFailedCalls
  rw [mirrors.shares.sameTransactions] at asCreated
  exact ⟨notQueued, noAttempts, noFailedCalls, asCreated⟩

/-- No answered sale is lost, and no other is journaled. In whatever order requests arrive
and workers take steps, each answer to a sale shows a receipt of its own, which is in the
table as it was shown; and for every other row no job is queued or attempted, `failed` is
not called, and the row is as it was created. -/
theorem answered_sales_recorded {tenants : Tenants} (reports : ReportsSales installation)
    (under : ∀ arrival, .arrives arrival ∈ events → RunsUnder setting arrival)
    (ran : run (Deployment.step installation setting)
      (fresh tenants setting.kraApi : Deployment collate) events = some final) :
    ∃ shown : List Transaction,
      final.server.exits.filterMap saleAnswer? = shown.map KraSalesController.signedResponse ∧
      (shown.map Transaction.id).Nodup ∧
      (∀ transaction ∈ shown, ∃ stored ∈ final.session.gateway.transactions.stored,
        Sales.receipt stored = transaction) ∧
      ∀ id, id ∉ shown.map Transaction.id → final.system.Untouched id := by
  obtain ⟨labels, reached, ranMachine, mirrors⟩ := mirrors_of_run_fresh reports under ran
  refine ⟨reached.returned, mirrors.shown, Sales.returned_id_nodup ranMachine, ?_, ?_⟩
  · intro transaction isShown
    obtain ⟨call, isCall, returned⟩ := Sales.mem_returned.mp isShown
    rw [← mirrors.shares.sameTransactions]
    exact List.mem_map.mp (Sales.mem_receipts_of_recorded ranMachine isCall
      (congrArg Sales.CallPhase.recorded returned))
  · intro id notShown
    rcases Sales.sent_or_untouched_of_run ranMachine id with sent | untouched
    · exact absurd (Sales.mem_returned_id.mpr sent) notShown
    · exact mirrors.untouched untouched

end Runs

/-! ### The bread sale and its job -/

/-- The shop's gateway, with the validator of sales. -/
def checkedInstallation : Installation :=
  { shopInstallation with
    otherFailures := fun endpoint input =>
      match endpoint with
      | .processTransaction => saleFailures input
      | _ => [] }

/-- The bread is sold, and a worker takes its job. -/
def breadDay : List Event := [.arrives breadArrival, .works (.work "1" .deliver)]

def breadDayRun : Option (Deployment id) :=
  run (Deployment.step checkedInstallation Sales.shopSetting)
    (fresh Devices.shopSession.tenants Sales.shopSetting.kraApi) breadDay

theorem breadDayRun_returns : breadDayRun.isSome = true := by
  decide +kernel

theorem breadDay_runsUnder (arrival : Arrival) (arrives : .arrives arrival ∈ breadDay) :
    RunsUnder Sales.shopSetting arrival := by
  have isBread : arrival = breadArrival := by simpa [breadDay] using arrives
  rw [isBread]
  exact ⟨rfl, rfl⟩

/-- The refinement at that day. -/
theorem gateway_run_of_run_breadDay :
    ∃ labels reached,
      run (System.step (loading Sales.shopSetting
          (breadDayRun.get breadDayRun_returns).session.tenants))
        (.idle (.empty id) []) labels = some reached ∧
      reached.attempts = (breadDayRun.get breadDayRun_returns).attempts := by
  obtain ⟨labels, reached, ran, -, -, sameAttempts, -⟩ := gateway_run_of_run
    (reportsSales_of_saleFailures rfl) breadDay_runsUnder
    (Option.some_get breadDayRun_returns).symm
  exact ⟨labels, reached, ran, sameAttempts⟩

/-- The bread is answered, and its row is in the table. -/
theorem answered_sales_recorded_breadDay :
    ∃ transaction : Transaction,
      ∃ stored ∈ (breadDayRun.get breadDayRun_returns).session.gateway.transactions.stored,
        Sales.receipt stored = transaction := by
  obtain ⟨shown, answers, -, recorded, -⟩ := answered_sales_recorded
    (reportsSales_of_saleFailures rfl) breadDay_runsUnder
    (Option.some_get breadDayRun_returns).symm
  have isAnswered : 0 <
      ((breadDayRun.get breadDayRun_returns).server.exits.filterMap saleAnswer?).length := by
    decide +kernel
  rw [answers, List.length_map] at isAnswered
  obtain ⟨transaction, isShown⟩ := List.exists_mem_of_length_pos isAnswered
  exact ⟨transaction, recorded transaction isShown⟩

end TaxGateway.Access
