import TaxGateway.Sales.Ledger

/-!
Contract: which steps of the gateway the journaling of one row depends on.

Owns:
- the labels of a run that concern one row, and the row's machine for them;
- that the journaling of every row is what that machine makes of its own labels,
  taken in their order: no other call, row or job has a part in it;
- that two runs that agree on a row's labels agree on its journaling.

Does not own: what the journaling of a row may end in.
-/

namespace TaxGateway.Sales

open TaxGateway.Database
open TaxGateway.Services
open TaxGateway.Services.KraSalesService
open TaxGateway.Journaling
open TaxGateway.Transitions

/-! ## One row -/

/-- What happens to one row: a step of its journaling, or the worker gives its job
up. -/
inductive RowLabel where
  | work (label : Journaling.Label)
  | giveUp (reason : GivingUp)

/-- The row's own machine. -/
def rowStep (job : Job) (state : Journaling.State) : RowLabel → Option Journaling.State
  | .work label => Journaling.State.step job state label
  | .giveUp reason =>
      (reason.exception state.attempts).map fun exception =>
        { state with failedCalls := state.failedCalls ++ [.called exception] }

/-- What a label of the gateway is to the row with an id. -/
def Label.ofRow (id : String) : Label → Option RowLabel
  | .work other label => if other = id then some (.work label) else none
  | .giveUp other reason => if other = id then some (.giveUp reason) else none
  | .request _ _ _ _ | .send _ _ _ | .insert _ _ | .dispatch _ _ | .settle _
  | .release _ => none

/-- The part of a run that concerns the row. -/
def rowLabels (id : String) (labels : List Label) : List RowLabel :=
  labels.filterMap (Label.ofRow id)

section Rows

variable {collate : String → String} {setting : Setting} {system system' : System collate}
  {id : String}

theorem rowLabels_concat (before : List Label) (label : Label) :
    rowLabels id (before ++ [label]) = rowLabels id before ++ (label.ofRow id).toList := by
  cases concerns : label.ofRow id <;> simp [rowLabels, concerns]

/-- The machine of a row does not depend on its journal columns. -/
theorem rowStep_setJournal (setting : Setting) (transaction : Transaction)
    (columns : JournalColumns) :
    rowStep (setting.job { transaction with journal := columns }) =
      rowStep (setting.job transaction) := by
  funext state label
  cases label with
  | work label =>
      exact congrFun (congrFun (step_job_setJournal setting transaction columns) state) label
  | giveUp reason => rfl

/-! ## What a step is to the rows -/

/-- Every row's journaling is where its own labels lead; a row that is not stored has
none. -/
structure Journaled (setting : Setting) (labels : List Label) (system : System collate) :
    Prop where
  onlyStored : ∀ id, id ∉ system.transactions.stored.map Transaction.id →
    rowLabels id labels = [] ∧ system.attempts id = [] ∧ system.failedCalls id = []
  ownRun : ∀ transaction ∈ system.transactions.stored,
    run (rowStep (setting.job transaction)) (.idle .created)
        (rowLabels transaction.id labels) =
      some (system.journaling transaction)

variable {labels : List Label}

/-- A label that concerns no row, and changes neither rows nor journaling. -/
theorem Journaled.of_same (journaled : Journaled setting labels system) {label : Label}
    (concernsNone : ∀ id, label.ofRow id = none)
    (sameRows : system'.transactions = system.transactions)
    (sameAttempts : system'.attempts = system.attempts)
    (sameCalls : system'.failedCalls = system.failedCalls) :
    Journaled setting (labels ++ [label]) system' := by
  have sameLabels : ∀ id, rowLabels id (labels ++ [label]) = rowLabels id labels := by
    intro id
    rw [rowLabels_concat, concernsNone]
    exact List.append_nil _
  refine ⟨?_, ?_⟩
  · intro id absent
    rw [sameRows] at absent
    rw [sameLabels, sameAttempts, sameCalls]
    exact journaled.onlyStored id absent
  · intro transaction member
    rw [sameRows] at member
    rw [sameLabels, journaled.ownRun transaction member]
    simp only [System.journaling, sameAttempts, sameCalls]

/-- A new row starts its machine; no label has concerned it before. -/
theorem Journaled.insert (journaled : Journaled setting labels system) {index : Nat}
    {database : Option String} {transaction : Transaction}
    {transactions : TransactionsTable collate} {calls : List Call}
    (created : transaction.journal = .created)
    (inserted : system.transactions.insert transaction = .ok transactions) :
    Journaled setting (labels ++ [.insert index database])
      { system with transactions := transactions, calls := calls } := by
  obtain ⟨⟨-, fresh, -⟩, stored⟩ := TransactionsTable.insert_eq_ok inserted
  have isNew : transaction.id ∉ system.transactions.stored.map Transaction.id := by
    simpa [TransactionsTable.stored] using fresh
  have sameLabels : ∀ id, rowLabels id (labels ++ [.insert index database]) =
      rowLabels id labels := by
    intro id
    rw [rowLabels_concat]
    exact List.append_nil _
  refine ⟨?_, ?_⟩
  · intro id absent
    rw [stored, List.map_append, List.mem_append, not_or] at absent
    rw [sameLabels]
    exact journaled.onlyStored id absent.1
  · intro other member
    rw [stored] at member
    rw [sameLabels]
    rcases List.mem_append.mp member with earlier | new
    · exact journaled.ownRun other earlier
    · obtain rfl := List.mem_singleton.mp new
      obtain ⟨noLabels, noAttempts, noCalls⟩ := journaled.onlyStored other.id isNew
      rw [noLabels, run_nil]
      simp [System.journaling, Journaling.State.idle, created, noAttempts, noCalls]

/-- A label of one row takes a step of that row's machine, and is nothing to the
others. -/
theorem Journaled.move (journaled : Journaled setting labels system) {label : Label}
    {rowLabel : RowLabel} {transaction : Transaction} {state : Journaling.State}
    (concerns : ∀ other, label.ofRow other = if id = other then some rowLabel else none)
    (found : system.transactions.find? id = some transaction)
    (moved : rowStep (setting.job transaction) (system.journaling transaction) rowLabel =
      some state) (jobs : List String) :
    Journaled setting (labels ++ [label]) { system.setJournaling id state with jobs := jobs } := by
  obtain ⟨isStored, hasId⟩ := TransactionsTable.find?_eq_some found
  have otherLabels : ∀ other, other ≠ id →
      rowLabels other (labels ++ [label]) = rowLabels other labels := by
    intro other different
    rw [rowLabels_concat, concerns, if_neg (Ne.symm different)]
    exact List.append_nil _
  refine ⟨?_, ?_⟩
  · intro other absent
    have wasAbsent : other ∉ system.transactions.stored.map Transaction.id := by
      rw [← setJournaling_ids]
      exact absent
    have different : other ≠ id := by
      rintro rfl
      exact wasAbsent (hasId ▸ List.mem_map_of_mem isStored)
    rw [otherLabels other different]
    simpa [System.setJournaling, different] using journaled.onlyStored other wasAbsent
  · intro other isRow
    rcases setJournaling_rows found isRow with rfl | ⟨wasRow, different⟩
    · have before := journaled.ownRun transaction isStored
      have ownLabels : rowLabels transaction.id (labels ++ [label]) =
          rowLabels transaction.id labels ++ [rowLabel] := by
        rw [rowLabels_concat, concerns, if_pos hasId.symm]
        rfl
      have own : (system.setJournaling id state).journaling
          { transaction with journal := state.columns } = state :=
        journaling_setJournaling_self hasId
      calc run (rowStep (setting.job { transaction with journal := state.columns }))
            (.idle .created) (rowLabels transaction.id (labels ++ [label]))
          = run (rowStep (setting.job transaction)) (.idle .created)
              (rowLabels transaction.id labels ++ [rowLabel]) := by
            rw [rowStep_setJournal, ownLabels]
        _ = some state := by
            rw [run_concat, before]
            exact moved
        _ = _ := congrArg some own.symm
    · rw [otherLabels other.id different, journaled.ownRun other wasRow]
      exact congrArg some (journaling_setJournaling_of_ne different).symm

theorem eq_of_rows {table table' : TransactionsTable collate}
    (sameRows : table.rows = table'.rows) : table = table' := by
  cases table
  cases table'
  cases sameRows
  rfl

/-- A row written as it stands is not changed. -/
theorem setJournal_self {table : TransactionsTable collate} {transaction : Transaction}
    (found : table.find? id = some transaction) :
    table.setJournal id transaction.journal = table := by
  apply eq_of_rows
  simp only [TransactionsTable.setJournal]
  conv_rhs => rw [← List.map_id table.rows]
  apply List.map_congr_left
  intro row isRow
  split
  next sameId =>
    have same : row.transaction = transaction :=
      TransactionsTable.eq_of_find? found (List.mem_map_of_mem isRow) sameId
    rw [← same]
    rfl
  next => rfl

/-- A job given up is a step of its row's journaling that leaves the row alone. -/
theorem giveUp_eq_setJournaling {transaction : Transaction}
    (found : system.transactions.find? id = some transaction) (jobs : List String)
    (failedCalls : List FailedCall) :
    { system with
      jobs := jobs
      failedCalls := Function.update system.failedCalls id failedCalls } =
      { system.setJournaling id { system.journaling transaction with
          failedCalls := failedCalls } with jobs := jobs } := by
  obtain ⟨-, hasId⟩ := TransactionsTable.find?_eq_some found
  have sameRows := setJournal_self found
  have sameAttempts : Function.update system.attempts id (system.attempts id) =
      system.attempts := Function.update_eq_self id system.attempts
  simp only [System.setJournaling, System.journaling, hasId, sameRows, sameAttempts]

theorem Journaled.step (journaled : Journaled setting labels system) {label : Label}
    (stepped : system.step setting label = some system') :
    Journaled setting (labels ++ [label]) system' := by
  cases label with
  | request request device uuid now =>
      obtain rfl := Option.some.inj stepped
      exact journaled.of_same (fun _ => rfl) rfl rfl rfl
  | send index transport signs =>
      obtain ⟨_, -, -, rfl⟩ := step_send stepped
      exact journaled.of_same (fun _ => rfl) rfl rfl rfl
  | insert index database =>
      obtain ⟨_, _, _, -, -, ⟨_, rfl⟩ | ⟨_, _, read, inserted, rfl⟩⟩ := step_insert stepped
      · exact journaled.of_same (fun _ => rfl) rfl rfl rfl
      · exact journaled.insert (journal_of_readAnswer read) inserted
  | dispatch index queue =>
      obtain ⟨_, _, -, -, ⟨_, rfl⟩ | rfl⟩ := step_dispatch stepped
      · exact journaled.of_same (fun _ => rfl) rfl rfl rfl
      · exact journaled.of_same (fun _ => rfl) rfl rfl rfl
  | work id label =>
      obtain ⟨transaction, state, -, found, moved, rfl⟩ := step_work stepped
      have concerns : ∀ other, Label.ofRow other (.work id label) =
          if id = other then some (.work label) else none := fun _ => rfl
      exact journaled.move concerns found moved system.jobs
  | settle id =>
      obtain ⟨-, rfl⟩ := step_settle stepped
      exact journaled.of_same (fun _ => rfl) rfl rfl rfl
  | release id =>
      obtain ⟨-, rfl⟩ := step_release stepped
      exact journaled.of_same (fun _ => rfl) rfl rfl rfl
  | giveUp id reason =>
      obtain ⟨transaction, exception, found, given, -, rfl⟩ := step_giveUp stepped
      obtain ⟨-, hasId⟩ := TransactionsTable.find?_eq_some found
      have concerns : ∀ other, Label.ofRow other (.giveUp id reason) =
          if id = other then some (.giveUp reason) else none := fun _ => rfl
      rw [giveUp_eq_setJournaling found]
      apply journaled.move concerns found
      simp only [rowStep, System.journaling, hasId, given, Option.map_some]

end Rows

/-! ## Runs -/

section Runs

variable {collate : String → String} {setting : Setting} {labels : List Label}
  {reached : System collate}

theorem journaled_of_run
    (ran : run (System.step setting) (.idle (.empty collate) []) labels = some reached) :
    Journaled setting labels reached := by
  have atStart : Journaled setting [] (System.idle (.empty collate) []) := by
    refine ⟨fun _ _ => ⟨rfl, rfl, rfl⟩, ?_⟩
    intro transaction member
    simp [System.idle, TransactionsTable.empty, TransactionsTable.stored] at member
  exact run_history (fun _ _ _ _ held stepped => held.step stepped) atStart ran

/-- The journaling of a row depends on nothing but the row and its own labels. In every
run of a gateway that starts empty it is where the row's machine gets to from a freshly
signed transaction by the labels of the run that concern the row, in their order; so any
two runs that agree on these labels and on the receipt leave the same row. -/
theorem journaling_of_run
    (ran : run (System.step setting) (.idle (.empty collate) []) labels = some reached)
    {transaction : Transaction} (isStored : transaction ∈ reached.transactions.stored) :
    run (rowStep (setting.job transaction)) (.idle .created) (rowLabels transaction.id labels) =
        some (reached.journaling transaction) ∧
      ∀ (otherLabels : List Label) (other : System collate) (columns : JournalColumns),
        run (System.step setting) (.idle (.empty collate) []) otherLabels = some other →
        { transaction with journal := columns } ∈ other.transactions.stored →
        rowLabels transaction.id otherLabels = rowLabels transaction.id labels →
        columns = transaction.journal := by
  have own := (journaled_of_run ran).ownRun transaction isStored
  refine ⟨own, ?_⟩
  intro otherLabels other columns ranOther otherStored sameLabels
  have otherOwn := (journaled_of_run ranOther).ownRun _ otherStored
  rw [rowStep_setJournal, sameLabels, own] at otherOwn
  exact congrArg State.columns (Option.some.inj otherOwn).symm

end Runs

/-! ### The bread sale -/

/-- The whole run: the sale is recorded, and its job delivered. -/
def journaledRun : Option (System id) :=
  run (System.step shopSetting) (.idle (.empty id) []) (recordedBread ++ queuedBread)

theorem journaledRun_ids :
    journaledRun.map (fun system => system.transactions.stored.map Transaction.id) =
      some ["1"] := by
  decide +kernel

theorem journaledRun_returns : journaledRun.isSome = true := by
  rw [← Option.isSome_map, journaledRun_ids]
  rfl

/-- The theorem at that run: its row is journaled by the delivery alone. -/
theorem journaling_of_run_bread :
    ∃ transaction ∈ (journaledRun.get journaledRun_returns).transactions.stored,
      run (rowStep (shopSetting.job transaction)) (.idle .created)
          (rowLabels transaction.id (recordedBread ++ queuedBread)) =
        some ((journaledRun.get journaledRun_returns).journaling transaction) := by
  have ids := journaledRun_ids
  rw [← Option.some_get journaledRun_returns, Option.map_some] at ids
  obtain ⟨transaction, member, -⟩ := List.mem_map.mp
    (Option.some.inj ids ▸ List.mem_singleton_self "1")
  exact ⟨transaction, member,
    (journaling_of_run (Option.some_get journaledRun_returns).symm member).1⟩

end TaxGateway.Sales
