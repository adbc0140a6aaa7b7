import TaxGateway.Journaling.Status
import TaxGateway.Sales.Recording

/-!
Contract: the whole gateway as a machine: any number of `processTransaction`
calls and of journaling attempts, in any interleaving.

Each call runs in a process of its own, with its own client; the table and the
queue are shared. A call takes three steps (the command to the device, the
`INSERT`, the dispatch), a journaling attempt those of `Journaling`.

The queue and its worker are the framework's, and no code of the repository. The
machine lets a worker do all that one may do to a job, and more: it delivers a
queued job any number of times, also while another attempt is at work; it puts a
job back after an attempt that threw, also if another attempt has removed it by
then; and it gives up, with a call of `failed`, whatever job it had in its hands,
also one that is out of the queue. Two things are relied on: a worker delivers
queued jobs only, and it takes a job from the queue only once an attempt has
completed or together with a call of `failed`. How often a job is tried, and how
long an attempt may take, is left open: what is proved of all runs holds for every
limit.

Owns:
- calls, the machine, and the inversion of its steps;
- the log of the signatures the devices have issued;
- that a call taken alone does what `processTransaction` says.

Does not own: properties of runs, or what a worker does at last.
-/

namespace TaxGateway.Sales

open TaxGateway.Php
open TaxGateway.Database
open TaxGateway.Http
open TaxGateway.Services
open TaxGateway.Services.KraSalesService
open TaxGateway.Journaling
open TaxGateway.Transitions

structure Setting where
  platform : Platform
  config : KraConfig
  kraApi : KraApi
  /-- `$transaction->kraDevice`, by the row's `kra_device_id`. -/
  kraDevice : String → KraDevice

/-- The job of a stored transaction. -/
def Setting.job (setting : Setting) (transaction : Transaction) : Job :=
  ⟨setting.platform, setting.kraApi, setting.kraDevice transaction.kraDeviceId, transaction⟩

/-! ## Calls -/

/-- Where a call stands. `undispatched` is a call that threw between its
`INSERT` and the end of its dispatch. -/
inductive CallPhase where
  | received
  | answered (xmlPayload : KraXml) (response : HttpResponse)
  | inserted (transaction : Transaction)
  | undispatched (transaction : Transaction) (thrown : Throwable)
  | returned (transaction : Transaction)
  | threw (thrown : Thrown)

/-- The transaction a call has inserted. -/
def CallPhase.recorded : CallPhase → Option Transaction
  | .inserted transaction => some transaction
  | .undispatched transaction _ => some transaction
  | .returned transaction => some transaction
  | .received | .answered _ _ | .threw _ => none

structure Call where
  request : AcceptedRequest
  device : KraDevice
  uuid : String
  now : DateTime
  phase : CallPhase

namespace Call

def sale (call : Call) : Sale :=
  ⟨call.device, call.request.validated, call.uuid, call.now⟩

/-- The key of the receipt the call is about. -/
def key (collate : String → String) (call : Call) : ReceiptKey :=
  ⟨call.device.id, collate (call.request.text "internalReceiptNumber"),
    call.request.text "receiptType", call.request.text "transactionType"⟩

/-- Does the call send its command at all? -/
def reachesDevice (setting : Setting) (call : Call) : Bool :=
  match call.device.pin, targetBaseUrl setting.config call.device, signingXml call.sale with
  | .ok _, .ok _, .ok _ => setting.kraApi.simulation.isNone
  | _, _, _ => false

/-- The phase after the command. -/
def send (setting : Setting) (transport : Transport) (call : Call) : CallPhase :=
  match sign setting.platform setting.config setting.kraApi call.sale fun _ => transport with
  | .error thrown => .threw thrown
  | .ok (xmlPayload, response) => .answered xmlPayload response

end Call

/-! ## The machine -/

structure System (collate : String → String) where
  transactions : TransactionsTable collate
  jobs : List String
  calls : List Call
  /-- The call and the receipt of each signature, in order. -/
  signatures : List (Nat × ReceiptKey)
  attempts : String → List Attempt
  failedCalls : String → List FailedCall

/-- Why a worker gives a job up: its last try threw, or the worker stopped it. -/
inductive GivingUp where
  | threw (index : Nat)
  | maxAttemptsExceeded
  | timeoutExceeded

/-- What the worker passes to `failed`. -/
def GivingUp.exception (attempts : List Attempt) : GivingUp → Option Thrown
  | .threw index =>
      attempts[index]?.bind fun attempt =>
        match attempt.phase with
        | .threw thrown => some thrown
        | _ => none
  | .maxAttemptsExceeded =>
      some (.php (.exception
        "App\\Jobs\\ProcessKraJournalingJob has been attempted too many times."))
  | .timeoutExceeded =>
      some (.php (.exception "App\\Jobs\\ProcessKraJournalingJob has timed out."))

def isCompleted (attempt : Attempt) : Bool :=
  match attempt.phase with
  | .completed => true
  | _ => false

def hasThrown (attempt : Attempt) : Bool :=
  match attempt.phase with
  | .threw _ => true
  | _ => false

inductive Label where
  | request (request : AcceptedRequest) (device : KraDevice) (uuid : String)
      (now : DateTime)
  /-- `signs`: the device issues a signature, whether or not its answer
  arrives. -/
  | send (index : Nat) (transport : Transport) (signs : Bool)
  | insert (index : Nat) (database : Option String)
  | dispatch (index : Nat) (queue : Option String)
  | work (id : String) (label : Journaling.Label)
  /-- A worker removes a job that is done. -/
  | settle (id : String)
  /-- A worker puts a job back that it could not do. -/
  | release (id : String)
  | giveUp (id : String) (reason : GivingUp)

namespace System

variable {collate : String → String}

/-- A gateway with nothing going on. -/
def idle (transactions : TransactionsTable collate) (jobs : List String) :
    System collate :=
  ⟨transactions, jobs, [], [], fun _ => [], fun _ => []⟩

def setPhase (system : System collate) (index : Nat) (call : Call) (phase : CallPhase) :
    System collate :=
  { system with calls := system.calls.set index { call with phase := phase } }

/-- The store a call works on. -/
def gateway (setting : Setting) (system : System collate) : Gateway collate :=
  ⟨system.transactions, system.jobs, setting.kraApi⟩

/-- The journaling of one transaction, as a state of its machine. -/
def journaling (system : System collate) (transaction : Transaction) : Journaling.State :=
  ⟨transaction.journal, system.attempts transaction.id, system.failedCalls transaction.id⟩

def setJournaling (system : System collate) (id : String) (state : Journaling.State) :
    System collate :=
  { system with
    transactions := system.transactions.setJournal id state.columns
    attempts := Function.update system.attempts id state.attempts
    failedCalls := Function.update system.failedCalls id state.failedCalls }

/-- A worker takes a job only from the queue, and calls `failed` only when it
gives a job up. -/
def allows (system : System collate) (id : String) : Journaling.Label → Bool
  | .deliver => system.jobs.contains id
  | .callFailed _ => false
  | .attempt _ _ _ => true
  | .failedCall _ => true

def insertStep (setting : Setting) (system : System collate) (index : Nat) (call : Call)
    (xmlPayload : KraXml) (response : HttpResponse) (database : Option String) :
    System collate :=
  match readAnswer setting.platform setting.config call.sale xmlPayload response with
  | .error thrown => system.setPhase index call (.threw (.php thrown))
  | .ok transaction =>
      match create database (system.gateway setting) transaction with
      | .error thrown => system.setPhase index call (.threw (.php thrown))
      | .ok stored =>
          { system.setPhase index call (.inserted transaction) with
            transactions := stored.transactions }

def dispatchStep (setting : Setting) (system : System collate) (index : Nat) (call : Call)
    (transaction : Transaction) (queue : Option String) : System collate :=
  match dispatch queue (system.gateway setting) transaction.id with
  | .error thrown => system.setPhase index call (.undispatched transaction thrown)
  | .ok queued =>
      { system.setPhase index call (.returned transaction) with jobs := queued.jobs }

def step (setting : Setting) (system : System collate) : Label → Option (System collate)
  | .request request device uuid now =>
      some { system with calls := system.calls ++ [⟨request, device, uuid, now, .received⟩] }
  | .send index transport signs =>
      system.calls[index]?.bind fun call =>
        match call.phase with
        | .received =>
            some { system.setPhase index call (call.send setting transport) with
              signatures := system.signatures ++
                if signs && call.reachesDevice setting then [(index, call.key collate)]
                else [] }
        | _ => none
  | .insert index database =>
      system.calls[index]?.bind fun call =>
        match call.phase with
        | .answered xmlPayload response =>
            some (system.insertStep setting index call xmlPayload response database)
        | _ => none
  | .dispatch index queue =>
      system.calls[index]?.bind fun call =>
        match call.phase with
        | .inserted transaction =>
            some (system.dispatchStep setting index call transaction queue)
        | _ => none
  | .work id label =>
      if system.allows id label then
        (system.transactions.find? id).bind fun transaction =>
          (Journaling.State.step (setting.job transaction)
            (system.journaling transaction) label).map (system.setJournaling id)
      else none
  | .settle id =>
      if system.jobs.contains id && (system.attempts id).any isCompleted then
        some { system with jobs := system.jobs.erase id }
      else none
  | .release id =>
      if (system.attempts id).any hasThrown then some { system with jobs := system.jobs ++ [id] }
      else none
  | .giveUp id reason =>
      if (system.jobs.contains id || !(system.attempts id).isEmpty) &&
          (system.transactions.find? id).isSome then
        (reason.exception (system.attempts id)).map fun exception =>
          { system with
            jobs := system.jobs.erase id
            failedCalls := Function.update system.failedCalls id
              (system.failedCalls id ++ [.called exception]) }
      else none

end System

/-! ## Inversion -/

section Inversion

variable {collate : String → String} {setting : Setting} {system system' : System collate}

theorem step_send {index : Nat} {transport : Transport} {signs : Bool}
    (stepped : system.step setting (.send index transport signs) = some system') :
    ∃ call, system.calls[index]? = some call ∧ call.phase = .received ∧
      system' = { system.setPhase index call (call.send setting transport) with
        signatures := system.signatures ++
          if signs && call.reachesDevice setting then [(index, call.key collate)]
          else [] } := by
  obtain ⟨call, atIndex, stepped⟩ := Option.bind_eq_some_iff.mp stepped
  split at stepped
  next received => exact ⟨call, atIndex, received, (Option.some.inj stepped).symm⟩
  next => contradiction

/-- An insertion step either makes the call throw, or inserts its row. -/
theorem step_insert {index : Nat} {database : Option String}
    (stepped : system.step setting (.insert index database) = some system') :
    ∃ call xmlPayload response, system.calls[index]? = some call ∧
      call.phase = .answered xmlPayload response ∧
      ((∃ thrown, system' = system.setPhase index call (.threw thrown)) ∨
        ∃ transaction transactions,
          readAnswer setting.platform setting.config call.sale xmlPayload response =
            .ok transaction ∧
          system.transactions.insert transaction = .ok transactions ∧
          system' = { system.setPhase index call (.inserted transaction) with
            transactions := transactions }) := by
  obtain ⟨call, atIndex, stepped⟩ := Option.bind_eq_some_iff.mp stepped
  split at stepped
  next xmlPayload response answered =>
    refine ⟨call, xmlPayload, response, atIndex, answered, ?_⟩
    obtain rfl := Option.some.inj stepped
    unfold System.insertStep
    split
    next thrown _ => exact .inl ⟨_, rfl⟩
    next transaction read =>
      cases database with
      | some message => exact .inl ⟨_, rfl⟩
      | none =>
          cases inserted : system.transactions.insert transaction with
          | error thrown =>
              simp only [create, System.gateway, inserted, Except.map]
              exact .inl ⟨_, rfl⟩
          | ok transactions =>
              simp only [create, System.gateway, inserted, Except.map]
              exact .inr ⟨transaction, transactions, read, inserted, rfl⟩
  next => contradiction

/-- A dispatch step either fails, or queues the job. -/
theorem step_dispatch {index : Nat} {queue : Option String}
    (stepped : system.step setting (.dispatch index queue) = some system') :
    ∃ call transaction, system.calls[index]? = some call ∧
      call.phase = .inserted transaction ∧
      ((∃ thrown, system' = system.setPhase index call (.undispatched transaction thrown)) ∨
        system' = { system.setPhase index call (.returned transaction) with
          jobs := system.jobs ++ [transaction.id] }) := by
  obtain ⟨call, atIndex, stepped⟩ := Option.bind_eq_some_iff.mp stepped
  split at stepped
  next transaction inserted =>
    refine ⟨call, transaction, atIndex, inserted, ?_⟩
    obtain rfl := Option.some.inj stepped
    cases queue with
    | some message => exact .inl ⟨_, rfl⟩
    | none => exact .inr rfl
  next => contradiction

theorem step_work {id : String} {label : Journaling.Label}
    (stepped : system.step setting (.work id label) = some system') :
    ∃ transaction state, system.allows id label = true ∧
      system.transactions.find? id = some transaction ∧
      Journaling.State.step (setting.job transaction) (system.journaling transaction)
        label = some state ∧
      system' = system.setJournaling id state := by
  simp only [System.step] at stepped
  split at stepped
  next allowed =>
    obtain ⟨transaction, found, stepped⟩ := Option.bind_eq_some_iff.mp stepped
    obtain ⟨state, journaled, rfl⟩ := Option.map_eq_some_iff.mp stepped
    exact ⟨transaction, state, allowed, found, journaled, rfl⟩
  next => contradiction

theorem step_settle {id : String}
    (stepped : system.step setting (.settle id) = some system') :
    (∃ attempt ∈ system.attempts id, attempt.phase = .completed) ∧
      system' = { system with jobs := system.jobs.erase id } := by
  simp only [System.step] at stepped
  split at stepped
  next enabled =>
    simp only [Bool.and_eq_true, List.any_eq_true] at enabled
    obtain ⟨attempt, member, completed⟩ := enabled.2
    refine ⟨⟨attempt, member, ?_⟩, (Option.some.inj stepped).symm⟩
    unfold isCompleted at completed
    split at completed
    next phase => exact phase
    next => contradiction
  next => contradiction

theorem step_release {id : String}
    (stepped : system.step setting (.release id) = some system') :
    system.attempts id ≠ [] ∧ system' = { system with jobs := system.jobs ++ [id] } := by
  simp only [System.step] at stepped
  split at stepped
  next threw =>
    obtain ⟨attempt, member, -⟩ := List.any_eq_true.mp threw
    exact ⟨List.ne_nil_of_mem member, (Option.some.inj stepped).symm⟩
  next => contradiction

/-- A message the worker makes up itself is short. -/
theorem exception_fits_or_threw {attempts : List Attempt} {reason : GivingUp}
    {exception : Thrown} (given : reason.exception attempts = some exception) :
    exception.message.length ≤ 255 ∨
      ∃ attempt ∈ attempts, attempt.phase = .threw exception := by
  cases reason with
  | threw index =>
      obtain ⟨attempt, atIndex, threw⟩ := Option.bind_eq_some_iff.mp given
      split at threw
      next thrown phase =>
        obtain rfl := Option.some.inj threw
        exact .inr ⟨attempt, List.mem_of_getElem? atIndex, phase⟩
      next => contradiction
  | maxAttemptsExceeded | timeoutExceeded =>
      obtain rfl := Option.some.inj given
      exact .inl (by decide +kernel)

theorem step_giveUp {id : String} {reason : GivingUp}
    (stepped : system.step setting (.giveUp id reason) = some system') :
    ∃ transaction exception, system.transactions.find? id = some transaction ∧
      reason.exception (system.attempts id) = some exception ∧
      (id ∈ system.jobs ∨ system.attempts id ≠ []) ∧
      system' = { system with
        jobs := system.jobs.erase id
        failedCalls := Function.update system.failedCalls id
          (system.failedCalls id ++ [.called exception]) } := by
  simp only [System.step] at stepped
  split at stepped
  next enabled =>
    simp only [Bool.and_eq_true, Bool.or_eq_true, Bool.not_eq_true', List.isEmpty_eq_false_iff,
      List.contains_iff_mem] at enabled
    obtain ⟨transaction, found⟩ := Option.isSome_iff_exists.mp enabled.2
    obtain ⟨exception, given, rfl⟩ := Option.map_eq_some_iff.mp stepped
    exact ⟨transaction, exception, found, given, enabled.1, rfl⟩
  next => contradiction

end Inversion

/-! ## Calls taken alone -/

section Alone

variable {collate : String → String} {setting : Setting}

/-- The last phase of a call with the given outcome. -/
def EndsAs (outcome : Except Thrown Transaction) (phase : CallPhase) : Prop :=
  match outcome with
  | .ok transaction => phase = .returned transaction
  | .error thrown =>
      phase = .threw thrown ∨
        ∃ transaction cause, phase = .undispatched transaction cause ∧ thrown = .php cause

/-- The system after a call that was added to `calls` has gone on to `phase` and
left table and queue as in `gateway`. -/
def withCall (system : System collate) (gateway : Gateway collate) (call : Call)
    (phase : CallPhase) : System collate :=
  { system with
    transactions := gateway.transactions
    jobs := gateway.jobs
    calls := system.calls ++ [{ call with phase := phase }] }

section Steps

variable (setting) (system : System collate) (gateway : Gateway collate) (call : Call)

theorem withCall_getElem? (phase : CallPhase) :
    (withCall system gateway call phase).calls[system.calls.length]? =
      some { call with phase := phase } := by
  simp [withCall]

theorem withCall_setPhase (phase next : CallPhase) :
    (withCall system gateway call phase).setPhase system.calls.length
        { call with phase := phase } next =
      withCall system gateway call next := by
  simp [withCall, System.setPhase, List.set_append_right]

theorem withCall_step_send (transport : Transport) :
    System.step setting (withCall system gateway call .received)
        (.send system.calls.length transport false) =
      some (withCall system gateway call (call.send setting transport)) := by
  simp only [System.step, withCall_getElem?, Option.bind_some, Bool.false_and,
    withCall_setPhase]
  simp [withCall, Call.send, Call.sale]

/-- The call reads its answer and inserts its row, or throws. -/
theorem withCall_step_insert (xmlPayload : KraXml) (response : HttpResponse)
    (database : Option String) :
    System.step setting (withCall system (system.gateway setting) call
        (.answered xmlPayload response)) (.insert system.calls.length database) =
      some (match readAnswer setting.platform setting.config call.sale xmlPayload response with
        | .error thrown => withCall system (system.gateway setting) call (.threw (.php thrown))
        | .ok transaction =>
            match create database (system.gateway setting) transaction with
            | .error thrown =>
                withCall system (system.gateway setting) call (.threw (.php thrown))
            | .ok stored => withCall system stored call (.inserted transaction)) := by
  have sale : Call.sale { call with phase := .answered xmlPayload response } = call.sale :=
    rfl
  simp only [System.step, withCall_getElem?, Option.bind_some, System.insertStep,
    withCall_setPhase, sale]
  cases readAnswer setting.platform setting.config call.sale xmlPayload response with
  | error thrown => rfl
  | ok transaction =>
      cases database with
      | some message => rfl
      | none =>
          simp only [create, System.gateway, withCall]
          cases system.transactions.insert transaction <;> rfl

/-- The call dispatches its job, or throws. -/
theorem withCall_step_dispatch (transaction : Transaction) (queue : Option String) :
    System.step setting (withCall system gateway call (.inserted transaction))
        (.dispatch system.calls.length queue) =
      some (match dispatch queue gateway transaction.id with
        | .error thrown => withCall system gateway call (.undispatched transaction thrown)
        | .ok queued => withCall system queued call (.returned transaction)) := by
  simp only [System.step, withCall_getElem?, Option.bind_some, System.dispatchStep,
    withCall_setPhase]
  cases queue <;> rfl

end Steps

/-- A call that has its answer does what `record` says. -/
theorem answered_run (system : System collate) (call : Call) (xmlPayload : KraXml)
    (response : HttpResponse) (database queue : Option String) :
    let recorded := record setting.platform setting.config call.sale xmlPayload database queue
      (system.gateway setting) response
    ∃ labels phase,
      run (System.step setting)
          (withCall system (system.gateway setting) call (.answered xmlPayload response))
          labels =
        some (withCall system recorded.2 call phase) ∧
      EndsAs recorded.1 phase := by
  have inserting := withCall_step_insert setting system call xmlPayload response database
  unfold record
  cases read : readAnswer setting.platform setting.config call.sale xmlPayload response with
  | error thrown =>
      simp only [read] at inserting
      refine ⟨[.insert system.calls.length database], .threw (.php thrown), ?_, .inl rfl⟩
      rw [run_singleton]
      exact inserting
  | ok transaction =>
      simp only [read] at inserting
      cases created : create database (system.gateway setting) transaction with
      | error thrown =>
          simp only [created] at inserting ⊢
          refine ⟨[.insert system.calls.length database], .threw (.php thrown), ?_, .inl rfl⟩
          rw [run_singleton]
          exact inserting
      | ok stored =>
          simp only [created] at inserting ⊢
          have dispatching :=
            withCall_step_dispatch setting system stored call transaction queue
          cases queue with
          | some message =>
              refine ⟨[.insert system.calls.length database,
                .dispatch system.calls.length (some message)],
                .undispatched transaction (.exception message), ?_, .inr ⟨_, _, rfl, rfl⟩⟩
              rw [run_cons, inserting, Option.bind_some, run_singleton]
              exact dispatching
          | none =>
              refine ⟨[.insert system.calls.length database,
                .dispatch system.calls.length none], .returned transaction, ?_, rfl⟩
              rw [run_cons, inserting, Option.bind_some, run_singleton]
              exact dispatching

/-- The machine runs `processTransaction`: a call that nobody disturbs leaves
table and queue, and ends, as it says. -/
theorem call_run (setting : Setting) (system : System collate) (request : AcceptedRequest)
    (device : KraDevice) (uuid : String) (now : DateTime) (transport : Transport)
    (database queue : Option String) :
    let call : Call := ⟨request, device, uuid, now, .received⟩
    let result := processTransaction setting.platform setting.config call.sale
      (fun _ => transport) database queue (system.gateway setting)
    ∃ labels phase,
      run (System.step setting) system (.request request device uuid now :: labels) =
        some (withCall system result.2 call phase) ∧
      EndsAs result.1 phase := by
  intro call result
  have sending :=
    withCall_step_send setting system (system.gateway setting) call transport
  cases signed : sign setting.platform setting.config setting.kraApi call.sale
      fun _ => transport with
  | error thrown =>
      have answer : call.send setting transport = .threw thrown := by
        simp only [Call.send, signed]
      obtain ⟨outcome, transactions, jobs⟩ : result.1 = .error thrown ∧
          result.2.transactions = system.transactions ∧ result.2.jobs = system.jobs :=
        processTransaction_of_sign_error signed
      refine ⟨[.send system.calls.length transport false], .threw thrown, ?_, ?_⟩
      · rw [run_cons, System.step, Option.bind_some, run_singleton, withCall, transactions,
          jobs, ← answer]
        exact sending
      · rw [outcome]
        exact .inl rfl
  | ok signedAnswer =>
      obtain ⟨xmlPayload, response⟩ := signedAnswer
      have answer : call.send setting transport = .answered xmlPayload response := by
        simp only [Call.send, signed]
      let recorded := record setting.platform setting.config call.sale xmlPayload database
        queue (system.gateway setting) response
      obtain ⟨outcome, transactions, jobs⟩ : result.1 = recorded.1 ∧
          result.2.transactions = recorded.2.transactions ∧
          result.2.jobs = recorded.2.jobs :=
        processTransaction_of_sign_ok signed
      obtain ⟨labels, phase, ran, ends⟩ :=
        @answered_run _ setting system call xmlPayload response database queue
      rw [← answer] at ran
      refine ⟨.send system.calls.length transport false :: labels, phase, ?_, ?_⟩
      · rw [run_cons, System.step, Option.bind_some, run_cons, withCall, transactions, jobs]
        exact (congrArg (Option.bind · _) sending).trans ran
      · rw [outcome]
        exact ends

end Alone

/-! ### The shop -/

def shopSetting : Setting :=
  ⟨shopPlatform "P" "KRACU1", shopConfig, KraApi.sandbox, fun _ => shopDevice⟩

/-- A request of the bread sale. -/
def breadRequest (uuid : String) : Label :=
  .request AcceptedRequest.breadSale shopDevice uuid ⟨2025, 7, 3, 13, 8, 10⟩

end TaxGateway.Sales
