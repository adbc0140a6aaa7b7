import TaxGateway.Sales.Gateway

/-!
Contract: the gateway as one of its rows sees it.

Owns:
- what a journaling step changes in the table;
- that only stored rows are journaled;
- that the journaling of a row, in any run of the gateway, is a run of the row's
  own machine: what `Journaling` proves of all runs holds of every row.

Does not own: the calls.
-/

namespace TaxGateway.Sales

open TaxGateway.Database
open TaxGateway.Services
open TaxGateway.Services.KraSalesService
open TaxGateway.Journaling
open TaxGateway.Transitions

variable {collate : String → String} {setting : Setting} {system system' : System collate}

/-! ## The table under a journaling step -/

section Table

variable {id : String} {transaction : Transaction} {state : Journaling.State}

/-- One row gets new journal columns, the others stay. -/
theorem setJournaling_rows (found : system.transactions.find? id = some transaction)
    {other : Transaction}
    (isRow : other ∈ (system.setJournaling id state).transactions.stored) :
    other = { transaction with journal := state.columns } ∨
      other ∈ system.transactions.stored ∧ other.id ≠ id := by
  simp only [System.setJournaling, TransactionsTable.stored_setJournal] at isRow
  obtain ⟨before, wasRow, rfl⟩ := List.mem_map.mp isRow
  split
  next same =>
    obtain rfl := TransactionsTable.eq_of_find? found wasRow same
    exact .inl rfl
  next different => exact .inr ⟨wasRow, different⟩

theorem setJournaling_ids :
    (system.setJournaling id state).transactions.stored.map Transaction.id =
      system.transactions.stored.map Transaction.id := by
  simp only [System.setJournaling, TransactionsTable.stored_setJournal, List.map_map]
  apply List.map_congr_left
  intro row _
  simp only [Function.comp_apply]
  split <;> rfl

theorem journaling_setJournaling_self (hasId : transaction.id = id) :
    (system.setJournaling id state).journaling
      { transaction with journal := state.columns } = state := by
  simp [System.journaling, System.setJournaling, hasId]

theorem journaling_setJournaling_of_ne {other : Transaction} (different : other.id ≠ id) :
    (system.setJournaling id state).journaling other = system.journaling other := by
  simp [System.journaling, System.setJournaling, different]

/-- A call of `failed` that the worker makes is one of the row's machine. -/
theorem journaling_giveUp (setting : Setting) (hasId : transaction.id = id)
    (exception : Thrown) :
    Journaling.State.step (setting.job transaction) (system.journaling transaction)
        (.callFailed exception) =
      some (System.journaling { system with
        jobs := system.jobs.erase id
        failedCalls := Function.update system.failedCalls id
          (system.failedCalls id ++ [.called exception]) } transaction) := by
  simp [System.journaling, Journaling.State.step, hasId]

/-- The machine of a row does not depend on its journal columns. -/
theorem step_job_setJournal (setting : Setting) (transaction : Transaction)
    (columns : JournalColumns) :
    Journaling.State.step (setting.job { transaction with journal := columns }) =
      Journaling.State.step (setting.job transaction) := by
  funext state label
  cases label <;> rfl

end Table

/-! ## Runs of the rows -/

/-- The row's journaling is where a run of its own machine ends. -/
def HasOwnRun (setting : Setting) (system : System collate) (transaction : Transaction) :
    Prop :=
  ∃ labels, run (Journaling.State.step (setting.job transaction)) (.idle .created) labels =
    some (system.journaling transaction)

/-- Only stored rows are journaled, each by a run of its own machine. -/
structure Projected (setting : Setting) (system : System collate) : Prop where
  onlyStored : ∀ id, id ∉ system.transactions.stored.map Transaction.id →
    system.attempts id = [] ∧ system.failedCalls id = []
  ownRun : ∀ transaction ∈ system.transactions.stored, HasOwnRun setting system transaction

theorem projected_idle (setting : Setting) :
    Projected setting (.idle (.empty collate) []) :=
  ⟨fun _ _ => ⟨rfl, rfl⟩, fun _ member => by
    simp [System.idle, TransactionsTable.empty, TransactionsTable.stored] at member⟩

/-- A signed row starts as the migration's defaults say. -/
theorem journal_of_readAnswer {platform : Platform} {config : KraConfig} {sale : Sale}
    {xmlPayload : KraXml} {response : HttpResponse} {transaction : Transaction}
    (read : readAnswer platform config sale xmlPayload response = .ok transaction) :
    transaction.journal = .created := by
  obtain ⟨_, _, _, _, _, -, -, -, -, -, rfl⟩ := readAnswer_eq_ok read
  rfl

/-- A new row has not been journaled, and nobody else's journaling changes. -/
theorem Projected.insert (projected : Projected setting system) {transaction : Transaction}
    {transactions : TransactionsTable collate} {calls : List Call}
    (created : transaction.journal = .created)
    (inserted : system.transactions.insert transaction = .ok transactions) :
    Projected setting { system with transactions := transactions, calls := calls } := by
  obtain ⟨⟨-, fresh, -⟩, stored⟩ := TransactionsTable.insert_eq_ok inserted
  have isNew : transaction.id ∉ system.transactions.stored.map Transaction.id := by
    simpa [TransactionsTable.stored] using fresh
  refine ⟨?_, ?_⟩
  · intro id absent
    rw [stored, List.map_append, List.mem_append, not_or] at absent
    exact projected.onlyStored id absent.1
  · intro other member
    rw [stored] at member
    rcases List.mem_append.mp member with earlier | new
    · exact projected.ownRun other earlier
    · obtain rfl := List.mem_singleton.mp new
      obtain ⟨noAttempts, noCalls⟩ := projected.onlyStored other.id isNew
      refine ⟨[], ?_⟩
      simp [System.journaling, Journaling.State.idle, created, noAttempts, noCalls]

theorem Projected.work (projected : Projected setting system) {id : String}
    {label : Journaling.Label} {transaction : Transaction} {state : Journaling.State}
    (found : system.transactions.find? id = some transaction)
    (journaled : Journaling.State.step (setting.job transaction)
      (system.journaling transaction) label = some state) :
    Projected setting (system.setJournaling id state) := by
  obtain ⟨isStored, hasId⟩ := TransactionsTable.find?_eq_some found
  refine ⟨?_, ?_⟩
  · intro other absent
    rw [setJournaling_ids] at absent
    have different : other ≠ id := by
      rintro rfl
      exact absent (hasId ▸ List.mem_map_of_mem isStored)
    simpa [System.setJournaling, different] using projected.onlyStored other absent
  · intro other isRow
    rcases setJournaling_rows found isRow with rfl | ⟨wasRow, different⟩
    · obtain ⟨labels, ran⟩ := projected.ownRun transaction isStored
      refine ⟨labels ++ [label], ?_⟩
      rw [step_job_setJournal, journaling_setJournaling_self hasId, run_concat, ran]
      exact journaled
    · obtain ⟨labels, ran⟩ := projected.ownRun other wasRow
      exact ⟨labels, by rw [journaling_setJournaling_of_ne different]; exact ran⟩

theorem Projected.giveUp (projected : Projected setting system) {id : String}
    {transaction : Transaction} (found : system.transactions.find? id = some transaction)
    (exception : Thrown) :
    Projected setting { system with
      jobs := system.jobs.erase id
      failedCalls := Function.update system.failedCalls id
        (system.failedCalls id ++ [.called exception]) } := by
  obtain ⟨isStored, hasId⟩ := TransactionsTable.find?_eq_some found
  refine ⟨?_, ?_⟩
  · intro other absent
    have different : other ≠ id := by
      rintro rfl
      exact absent (hasId ▸ List.mem_map_of_mem isStored)
    simpa [different] using projected.onlyStored other absent
  · intro other isRow
    obtain ⟨labels, ran⟩ := projected.ownRun other isRow
    by_cases own : other.id = id
    · refine ⟨labels ++ [.callFailed exception], ?_⟩
      rw [run_concat, ran]
      exact journaling_giveUp setting own exception
    · refine ⟨labels, ?_⟩
      rw [ran]
      simp [System.journaling, own]

theorem projected_step (projected : Projected setting system) {label : Label}
    (stepped : system.step setting label = some system') : Projected setting system' := by
  cases label with
  | request request device uuid now =>
      obtain rfl := Option.some.inj stepped
      exact ⟨projected.onlyStored, projected.ownRun⟩
  | send index transport signs =>
      obtain ⟨_, -, -, rfl⟩ := step_send stepped
      exact ⟨projected.onlyStored, projected.ownRun⟩
  | insert index database =>
      obtain ⟨_, _, _, -, -, ⟨_, rfl⟩ | ⟨_, _, read, inserted, rfl⟩⟩ := step_insert stepped
      · exact ⟨projected.onlyStored, projected.ownRun⟩
      · exact projected.insert (journal_of_readAnswer read) inserted
  | dispatch index queue =>
      obtain ⟨_, _, -, -, ⟨_, rfl⟩ | rfl⟩ := step_dispatch stepped
      · exact ⟨projected.onlyStored, projected.ownRun⟩
      · exact ⟨projected.onlyStored, projected.ownRun⟩
  | work id label =>
      obtain ⟨_, _, -, found, journaled, rfl⟩ := step_work stepped
      exact projected.work found journaled
  | settle id =>
      obtain ⟨-, rfl⟩ := step_settle stepped
      exact ⟨projected.onlyStored, projected.ownRun⟩
  | release id =>
      obtain ⟨-, rfl⟩ := step_release stepped
      exact ⟨projected.onlyStored, projected.ownRun⟩
  | giveUp id reason =>
      obtain ⟨_, exception, found, -, -, rfl⟩ := step_giveUp stepped
      exact projected.giveUp found exception

/-- In every run of a gateway that starts empty, the journaling of each row is a
run of the row's own machine from a freshly signed transaction. -/
theorem projected_of_run {labels : List Label}
    (ran : run (System.step setting) (.idle (.empty collate) []) labels = some system) :
    Projected setting system :=
  run_invariant (fun _ _ _ held stepped => projected_step held stepped)
    (projected_idle setting) ran

end TaxGateway.Sales
