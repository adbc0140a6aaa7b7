import TaxGateway.Sales.Projection

/-!
Contract: the table of transactions as a ledger, over whole runs of the gateway.

Owns:
- a receipt: a row apart from the columns that journaling writes;
- that receipts are only ever added, whatever calls and workers do in between;
- that the receipts added are those the calls have recorded, each read from an
  answer signed for its call.

Does not own: the journal columns, or the queue.
-/

namespace TaxGateway.Sales

open TaxGateway.Php
open TaxGateway.Database
open TaxGateway.Services
open TaxGateway.Services.KraSalesService
open TaxGateway.Transitions

/-- A row as it was created. -/
def receipt (transaction : Transaction) : Transaction :=
  { transaction with journal := .created }

section Receipts

variable {collate : String → String}

/-- The receipts in the table, in the order of their insertion. -/
def System.receipts (system : System collate) : List Transaction :=
  system.transactions.stored.map receipt

/-- The receipt a call has recorded. -/
def Call.recorded (call : Call) : Option Transaction := call.phase.recorded

/-- The receipts the calls have recorded, in the order of the calls. -/
def System.recorded (system : System collate) : List Transaction :=
  system.calls.filterMap Call.recorded

/-- What the table has gained, the calls have recorded. -/
def Records (system system' : System collate) : Prop :=
  ∃ added, system'.receipts = system.receipts ++ added ∧
    system'.recorded.Perm (system.recorded ++ added)

instance : IsPreorder (System collate) Records where
  refl system := ⟨[], by simp, by simp⟩
  trans first second third := by
    rintro ⟨added, receipts, recorded⟩ ⟨added', receipts', recorded'⟩
    refine ⟨added ++ added', ?_, ?_⟩
    · rw [receipts', receipts, List.append_assoc]
    · rw [← List.append_assoc]
      exact recorded'.trans (recorded.append_right added')

end Receipts

/-! ## What a step adds -/

section Steps

variable {collate : String → String} {setting : Setting} {system system' : System collate}

theorem records_of_same (sameReceipts : system'.receipts = system.receipts)
    (sameRecorded : system'.recorded = system.recorded) : Records system system' :=
  ⟨[], by rw [sameReceipts, List.append_nil], by rw [sameRecorded, List.append_nil]⟩

/-- A call that moves on with what it had recorded before adds nothing. -/
theorem recorded_setPhase {index : Nat} {call : Call}
    (atIndex : system.calls[index]? = some call) (phase : CallPhase)
    (same : phase.recorded = call.phase.recorded) :
    (system.setPhase index call phase).recorded = system.recorded :=
  filterMap_set_eq (f := Call.recorded) atIndex same

/-- No journaling step touches a receipt. -/
theorem receipts_setJournaling (id : String) (state : Journaling.State) :
    (system.setJournaling id state).receipts = system.receipts := by
  simp only [System.receipts, System.setJournaling, TransactionsTable.stored_setJournal,
    List.map_map]
  apply List.map_congr_left
  intro transaction _
  simp only [Function.comp_apply]
  split <;> rfl

/-- A row is inserted together with the record of its call. -/
theorem records_insert {index : Nat} {call : Call} {transaction : Transaction}
    {transactions : TransactionsTable collate} (atIndex : system.calls[index]? = some call)
    (recordedNothing : call.recorded = none)
    (created : transaction.journal = .created)
    (inserted : system.transactions.insert transaction = .ok transactions) :
    Records system { system.setPhase index call (.inserted transaction) with
      transactions := transactions } := by
  have stored := (TransactionsTable.insert_eq_ok inserted).2
  have isReceipt : receipt transaction = transaction := by
    rw [receipt, ← created]
  refine ⟨[transaction], ?_, ?_⟩
  · simp only [System.receipts, stored, List.map_append, List.map_singleton, isReceipt]
  · exact filterMap_set_perm (f := Call.recorded) atIndex recordedNothing rfl

theorem recorded_send (setting : Setting) (transport : Transport) (call : Call) :
    (call.send setting transport).recorded = none := by
  unfold Call.send
  split <;> rfl

theorem records_step {label : Label} (stepped : system.step setting label = some system') :
    Records system system' := by
  cases label with
  | request request device uuid now =>
      obtain rfl := Option.some.inj stepped
      refine records_of_same rfl ?_
      simp [System.recorded, Call.recorded, CallPhase.recorded]
  | send index transport signs =>
      obtain ⟨call, atIndex, received, rfl⟩ := step_send stepped
      refine records_of_same rfl (recorded_setPhase atIndex (call.send setting transport) ?_)
      rw [received]
      exact recorded_send setting transport call
  | insert index database =>
      obtain ⟨call, xmlPayload, response, atIndex, answered,
        ⟨thrown, rfl⟩ | ⟨transaction, transactions, read, inserted, rfl⟩⟩ := step_insert stepped
      · refine records_of_same rfl (recorded_setPhase atIndex (.threw thrown) ?_)
        rw [answered]
        rfl
      · have recordedNothing : call.recorded = none := by
          rw [Call.recorded, answered]
          rfl
        exact records_insert atIndex recordedNothing (journal_of_readAnswer read) inserted
  | dispatch index queue =>
      obtain ⟨call, transaction, atIndex, phase, ⟨thrown, rfl⟩ | rfl⟩ := step_dispatch stepped
      · refine records_of_same rfl
          (recorded_setPhase atIndex (.undispatched transaction thrown) ?_)
        rw [phase]
        rfl
      · refine records_of_same rfl (recorded_setPhase atIndex (.returned transaction) ?_)
        rw [phase]
        rfl
  | work id label =>
      obtain ⟨_, state, -, -, -, rfl⟩ := step_work stepped
      exact records_of_same (receipts_setJournaling id state) rfl
  | settle id =>
      obtain ⟨-, rfl⟩ := step_settle stepped
      exact records_of_same rfl rfl
  | release id =>
      obtain ⟨-, rfl⟩ := step_release stepped
      exact records_of_same rfl rfl
  | giveUp id reason =>
      obtain ⟨_, _, -, -, -, rfl⟩ := step_giveUp stepped
      exact records_of_same rfl rfl

end Steps

/-! ## Where a receipt comes from -/

/-- The call has sent its command, and this is what came back. -/
def Call.Answered (setting : Setting) (call : Call) (xmlPayload : KraXml)
    (response : HttpResponse) : Prop :=
  ∃ transport, sign setting.platform setting.config setting.kraApi call.sale
    (fun _ => transport) = .ok (xmlPayload, response)

/-- The transaction is what the call read from its answer. -/
def Call.Read (setting : Setting) (call : Call) (transaction : Transaction) : Prop :=
  ∃ xmlPayload response, call.Answered setting xmlPayload response ∧
    readAnswer setting.platform setting.config call.sale xmlPayload response = .ok transaction

/-- What a call holds, it has been answered. -/
def Call.Vouched (setting : Setting) (call : Call) : Prop :=
  match call.phase with
  | .received | .threw _ => True
  | .answered xmlPayload response => call.Answered setting xmlPayload response
  | .inserted transaction | .undispatched transaction _ | .returned transaction =>
      call.Read setting transaction

def AllVouched {collate : String → String} (setting : Setting) (system : System collate) :
    Prop :=
  ∀ call ∈ system.calls, call.Vouched setting

section Vouched

variable {collate : String → String} {setting : Setting} {system system' : System collate}

theorem vouched_send (setting : Setting) (transport : Transport) (call : Call) :
    Call.Vouched setting { call with phase := call.send setting transport } := by
  unfold Call.Vouched Call.send
  cases signed : sign setting.platform setting.config setting.kraApi call.sale
      fun _ => transport with
  | error thrown => trivial
  | ok answer => exact ⟨transport, signed⟩

theorem AllVouched.setPhase (vouched : AllVouched setting system) {index : Nat} {call : Call}
    {phase : CallPhase} (isVouched : Call.Vouched setting { call with phase := phase }) :
    AllVouched setting (system.setPhase index call phase) := by
  intro other member
  rcases List.mem_or_eq_of_mem_set member with isOld | rfl
  · exact vouched other isOld
  · exact isVouched

theorem allVouched_step (vouched : AllVouched setting system) {label : Label}
    (stepped : system.step setting label = some system') : AllVouched setting system' := by
  cases label with
  | request request device uuid now =>
      obtain rfl := Option.some.inj stepped
      intro call member
      rcases List.mem_append.mp member with isOld | isNew
      · exact vouched call isOld
      · rw [List.mem_singleton.mp isNew]
        trivial
  | send index transport signs =>
      obtain ⟨call, -, -, rfl⟩ := step_send stepped
      exact vouched.setPhase (vouched_send setting transport call)
  | insert index database =>
      obtain ⟨call, xmlPayload, response, atIndex, phase,
        ⟨thrown, rfl⟩ | ⟨transaction, transactions, read, -, rfl⟩⟩ := step_insert stepped
      · have threw : Call.Vouched setting { call with phase := .threw thrown } := trivial
        exact vouched.setPhase threw
      · have answered := vouched call (List.mem_of_getElem? atIndex)
        simp only [Call.Vouched, phase] at answered
        have isRead : Call.Vouched setting { call with phase := .inserted transaction } :=
          ⟨xmlPayload, response, answered, read⟩
        exact vouched.setPhase isRead
  | dispatch index queue =>
      obtain ⟨call, transaction, atIndex, phase, moved⟩ := step_dispatch stepped
      have isRead := vouched call (List.mem_of_getElem? atIndex)
      simp only [Call.Vouched, phase] at isRead
      rcases moved with ⟨thrown, rfl⟩ | rfl
      · have kept : Call.Vouched setting
            { call with phase := .undispatched transaction thrown } := isRead
        exact vouched.setPhase kept
      · have kept : Call.Vouched setting { call with phase := .returned transaction } := isRead
        exact vouched.setPhase kept
  | work id label =>
      obtain ⟨_, _, -, -, -, rfl⟩ := step_work stepped
      exact vouched
  | settle id =>
      obtain ⟨-, rfl⟩ := step_settle stepped
      exact vouched
  | release id =>
      obtain ⟨-, rfl⟩ := step_release stepped
      exact vouched
  | giveUp id reason =>
      obtain ⟨_, _, -, -, -, rfl⟩ := step_giveUp stepped
      exact vouched

theorem allVouched_of_run {table : TransactionsTable collate} {jobs : List String}
    {labels : List Label} (ran : run (System.step setting) (.idle table jobs) labels =
      some system) : AllVouched setting system := by
  have atStart : AllVouched setting (System.idle table jobs) := by
    intro call member
    simp [System.idle] at member
  exact run_invariant (fun _ _ _ held stepped => allVouched_step held stepped) atStart ran

/-- What a call has recorded, it has read. -/
theorem Call.Vouched.read {call : Call} {transaction : Transaction}
    (vouched : call.Vouched setting) (recorded : call.recorded = some transaction) :
    call.Read setting transaction := by
  unfold Call.Vouched at vouched
  unfold Call.recorded at recorded
  cases phase : call.phase with
  | received | answered _ _ | threw _ =>
      rw [phase] at recorded
      cases recorded
  | inserted _ | undispatched _ _ | returned _ =>
      rw [phase] at recorded vouched
      obtain rfl := Option.some.inj recorded
      exact vouched

end Vouched

/-! ## Runs -/

section Runs

variable {collate : String → String} {setting : Setting} {table : TransactionsTable collate}
  {jobs : List String} {early late : List Label} {middle reached : System collate}

/-- The table is a ledger. Whatever the calls and the workers do, a receipt once in the
table stays there, at its place and unchanged; the receipts added in a run are exactly
those the calls have recorded, one a call; and each was read from an answer to the
command of its call. -/
theorem ledger_of_run
    (ranEarly : run (System.step setting) (.idle table jobs) early = some middle)
    (ranLate : run (System.step setting) middle late = some reached) :
    middle.receipts <+: reached.receipts ∧
    (∃ added, reached.receipts = table.stored.map receipt ++ added ∧
      reached.recorded.Perm added) ∧
    ∀ call ∈ reached.calls, ∀ transaction, call.recorded = some transaction →
      call.Read setting transaction := by
  have ran : run (System.step setting) (.idle table jobs) (early ++ late) = some reached := by
    rw [run_append, ranEarly]
    exact ranLate
  refine ⟨?_, ?_, ?_⟩
  · obtain ⟨added, receipts, -⟩ := run_relates (fun _ _ _ => records_step) ranLate
    rw [receipts]
    exact List.prefix_append middle.receipts added
  · obtain ⟨added, receipts, recorded⟩ := run_relates (fun _ _ _ => records_step) ran
    exact ⟨added, receipts, recorded⟩
  · intro call member transaction isRecorded
    exact (allVouched_of_run ran call member).read isRecorded

end Runs

/-! ### The bread sale -/

/-- The bread sale is signed and recorded. -/
def recordedBread : List Label :=
  [breadRequest "1", .send 0 (signedAnswer "P" "KRACU1") true, .insert 0 none]

def recordedRun : Option (System id) :=
  run (System.step shopSetting) (.idle (.empty id) []) recordedBread

theorem recordedRun_returns : recordedRun.isSome = true := by
  decide +kernel

/-- Then its job is dispatched and delivered to a worker. -/
def queuedBread : List Label := [.dispatch 0 none, .work "1" .deliver]

def queuedRun : Option (System id) :=
  run (System.step shopSetting) (recordedRun.get recordedRun_returns) queuedBread

theorem queuedRun_returns : queuedRun.isSome = true := by
  decide +kernel

/-- The theorem at that run. -/
theorem ledger_of_run_bread :
    (recordedRun.get recordedRun_returns).receipts <+:
        (queuedRun.get queuedRun_returns).receipts ∧
      (∃ added, (queuedRun.get queuedRun_returns).receipts =
          (TransactionsTable.empty id).stored.map receipt ++ added ∧
        (queuedRun.get queuedRun_returns).recorded.Perm added) ∧
      ∀ call ∈ (queuedRun.get queuedRun_returns).calls, ∀ transaction,
        call.recorded = some transaction → call.Read shopSetting transaction :=
  ledger_of_run (Option.some_get recordedRun_returns).symm
    (Option.some_get queuedRun_returns).symm

end TaxGateway.Sales
