import TaxGateway.Sales.Ledger

/-!
Contract: the jobs that calls send, over whole runs of the gateway.

Owns:
- what it is for a call to have sent a job: it has returned the row with that id;
- that a job is sent after its row was recorded, that no two calls send a job with the
  same id, and that a call never takes back what it has sent;
- that for a row whose job no call has sent nothing is done: no job is queued, no worker
  attempts it or calls `failed`, and no journal column is written.

Does not own: what becomes of a job once it is sent. That is up to the worker.
-/

namespace TaxGateway.Sales

open TaxGateway.Database
open TaxGateway.Journaling
open TaxGateway.Transitions

/-! ## Calls that have sent their job -/

section Sent

variable {collate : String → String} {setting : Setting} {system system' : System collate}
  {index : Nat} {id : String}

/-- The call has returned the transaction with this id: it has dispatched its job. -/
def System.Sent (system : System collate) (index : Nat) (id : String) : Prop :=
  ∃ call transaction, system.calls[index]? = some call ∧
    call.phase = .returned transaction ∧ transaction.id = id

/-- A call that has returned stays as it is when another moves on. -/
theorem sent_setPhase {place : Nat} {call : Call} (atPlace : system.calls[place]? = some call)
    (phase : CallPhase) (hadNot : ∀ transaction, call.phase ≠ .returned transaction)
    (sent : system.Sent index id) : (system.setPhase place call phase).Sent index id := by
  obtain ⟨agent, transaction, atIndex, returned, sameId⟩ := sent
  have different : place ≠ index := by
    rintro rfl
    obtain rfl := Option.some.inj (atPlace.symm.trans atIndex)
    exact hadNot transaction returned
  have kept : (system.setPhase place call phase).calls[index]? = some agent :=
    (List.getElem?_set_ne different).trans atIndex
  exact ⟨agent, transaction, kept, returned, sameId⟩

/-- The call that dispatches the job of its row has sent it. -/
theorem sent_dispatch {call : Call} (atIndex : system.calls[index]? = some call)
    (transaction : Transaction) :
    (system.setPhase index call (.returned transaction)).Sent index transaction.id := by
  obtain ⟨below, -⟩ := List.getElem?_eq_some_iff.mp atIndex
  have returned : (system.setPhase index call (.returned transaction)).calls[index]? =
      some { call with phase := .returned transaction } := List.getElem?_set_self below
  exact ⟨_, transaction, returned, rfl, rfl⟩

theorem sent_step {label : Label} (sent : system.Sent index id)
    (stepped : system.step setting label = some system') : system'.Sent index id := by
  cases label with
  | request request device uuid now =>
      obtain rfl := Option.some.inj stepped
      obtain ⟨call, transaction, atIndex, returned, sameId⟩ := sent
      obtain ⟨below, -⟩ := List.getElem?_eq_some_iff.mp atIndex
      have kept : (system.calls ++ [⟨request, device, uuid, now, .received⟩])[index]? =
          some call := (List.getElem?_append_left below).trans atIndex
      exact ⟨call, transaction, kept, returned, sameId⟩
  | send place transport signs =>
      obtain ⟨call, atPlace, received, rfl⟩ := step_send stepped
      exact sent_setPhase atPlace (call.send setting transport) (by simp [received]) sent
  | insert place database =>
      obtain ⟨call, _, _, atPlace, answered,
        ⟨thrown, rfl⟩ | ⟨transaction, _, -, -, rfl⟩⟩ := step_insert stepped
      · exact sent_setPhase atPlace (.threw thrown) (by simp [answered]) sent
      · exact sent_setPhase atPlace (.inserted transaction) (by simp [answered]) sent
  | dispatch place queue =>
      obtain ⟨call, transaction, atPlace, inserted, ⟨thrown, rfl⟩ | rfl⟩ :=
        step_dispatch stepped
      · exact sent_setPhase atPlace (.undispatched transaction thrown) (by simp [inserted]) sent
      · exact sent_setPhase atPlace (.returned transaction) (by simp [inserted]) sent
  | work other label =>
      obtain ⟨_, _, -, -, -, rfl⟩ := step_work stepped
      exact sent
  | settle other =>
      obtain ⟨-, rfl⟩ := step_settle stepped
      exact sent
  | release other =>
      obtain ⟨-, rfl⟩ := step_release stepped
      exact sent
  | giveUp other reason =>
      obtain ⟨_, _, -, -, -, rfl⟩ := step_giveUp stepped
      exact sent

end Sent

/-! ## Rows whose job nobody has sent -/

section Untouched

variable {collate : String → String} {setting : Setting} {system system' : System collate}
  {id : String}

/-- Nothing has been done for the id, and its row, if there is one, is as it was
created. -/
structure System.Untouched (system : System collate) (id : String) : Prop where
  notQueued : id ∉ system.jobs
  noAttempts : system.attempts id = []
  noFailedCalls : system.failedCalls id = []
  asCreated : ∀ stored ∈ system.transactions.stored, stored.id = id →
    stored.journal = .created

theorem untouched_idle : (System.idle (.empty collate) []).Untouched id where
  notQueued := by simp [System.idle]
  noAttempts := rfl
  noFailedCalls := rfl
  asCreated := by simp [System.idle, TransactionsTable.stored, TransactionsTable.empty]

theorem System.Untouched.insert (untouched : system.Untouched id) {transaction : Transaction}
    {transactions : TransactionsTable collate} (created : transaction.journal = .created)
    (inserted : system.transactions.insert transaction = .ok transactions) (calls : List Call) :
    { system with calls := calls, transactions := transactions }.Untouched id := by
  refine ⟨untouched.notQueued, untouched.noAttempts, untouched.noFailedCalls, ?_⟩
  intro stored isStored sameId
  rw [(TransactionsTable.insert_eq_ok inserted).2] at isStored
  rcases List.mem_append.mp isStored with isOld | isNew
  · exact untouched.asCreated stored isOld sameId
  · rw [List.mem_singleton.mp isNew]
    exact created

/-- An attempt needs a delivery, and a delivery needs the job. -/
theorem System.Untouched.not_work (untouched : system.Untouched id) {label : Journaling.Label}
    {transaction : Transaction} {state : Journaling.State}
    (allowed : system.allows id label = true) (hasId : transaction.id = id) :
    Journaling.State.step (setting.job transaction) (system.journaling transaction) label ≠
      some state := by
  intro journaled
  have noAttempts : (system.journaling transaction).attempts = [] := by
    rw [System.journaling, hasId]
    exact untouched.noAttempts
  have noFailedCalls : (system.journaling transaction).failedCalls = [] := by
    rw [System.journaling, hasId]
    exact untouched.noFailedCalls
  cases label with
  | deliver => exact untouched.notQueued (List.contains_iff_mem.mp allowed)
  | attempt index transport accepted =>
      obtain ⟨_, _, atIndex, -, -⟩ := step_attempt journaled
      simp [noAttempts] at atIndex
  | callFailed exception => contradiction
  | failedCall index =>
      obtain ⟨_, _, atIndex, -, -⟩ := step_failedCall journaled
      simp [noFailedCalls] at atIndex

/-- The journaling of one row leaves the others alone. -/
theorem System.Untouched.work (untouched : system.Untouched id) {other : String}
    (different : other ≠ id) (state : Journaling.State) :
    (system.setJournaling other state).Untouched id := by
  refine ⟨untouched.notQueued, ?_, ?_, ?_⟩
  · simp [System.setJournaling, different.symm, untouched.noAttempts]
  · simp [System.setJournaling, different.symm, untouched.noFailedCalls]
  · intro stored isStored sameId
    simp only [System.setJournaling, TransactionsTable.stored_setJournal] at isStored
    obtain ⟨old, wasStored, rfl⟩ := List.mem_map.mp isStored
    split at sameId
    next own => exact absurd (own.symm.trans sameId) different
    next notOwn =>
      rw [if_neg notOwn]
      exact untouched.asCreated old wasStored sameId

/-- Only the dispatch of its job makes anything happen to a row. -/
theorem sent_or_untouched_step {label : Label} (untouched : system.Untouched id)
    (stepped : system.step setting label = some system') :
    (∃ index, system'.Sent index id) ∨ system'.Untouched id := by
  have ⟨notQueued, noAttempts, noFailedCalls, asCreated⟩ := untouched
  cases label with
  | request request device uuid now =>
      obtain rfl := Option.some.inj stepped
      exact .inr ⟨notQueued, noAttempts, noFailedCalls, asCreated⟩
  | send index transport signs =>
      obtain ⟨_, -, -, rfl⟩ := step_send stepped
      exact .inr ⟨notQueued, noAttempts, noFailedCalls, asCreated⟩
  | insert index database =>
      obtain ⟨_, _, _, -, -, ⟨_, rfl⟩ | ⟨_, _, read, inserted, rfl⟩⟩ := step_insert stepped
      · exact .inr ⟨notQueued, noAttempts, noFailedCalls, asCreated⟩
      · exact .inr (untouched.insert (journal_of_readAnswer read) inserted _)
  | dispatch index queue =>
      obtain ⟨_, transaction, atIndex, -, ⟨_, rfl⟩ | rfl⟩ := step_dispatch stepped
      · exact .inr ⟨notQueued, noAttempts, noFailedCalls, asCreated⟩
      · by_cases own : transaction.id = id
        · subst own
          exact .inl ⟨index, sent_dispatch atIndex transaction⟩
        · exact .inr ⟨by simp [notQueued, Ne.symm own], noAttempts, noFailedCalls, asCreated⟩
  | work other label =>
      obtain ⟨transaction, state, allowed, found, journaled, rfl⟩ := step_work stepped
      by_cases own : other = id
      · subst own
        have hasId := (TransactionsTable.find?_eq_some found).2
        exact absurd journaled (untouched.not_work allowed hasId)
      · exact .inr (untouched.work own state)
  | settle other =>
      obtain ⟨-, rfl⟩ := step_settle stepped
      have stillNot : id ∉ system.jobs.erase other :=
        fun queued => notQueued (List.mem_of_mem_erase queued)
      exact .inr ⟨stillNot, noAttempts, noFailedCalls, asCreated⟩
  | release other =>
      obtain ⟨attempted, rfl⟩ := step_release stepped
      have different : id ≠ other := by
        rintro rfl
        exact attempted noAttempts
      exact .inr ⟨by simp [notQueued, different], noAttempts, noFailedCalls, asCreated⟩
  | giveUp other reason =>
      obtain ⟨_, _, -, -, known, rfl⟩ := step_giveUp stepped
      have different : id ≠ other := by
        rintro rfl
        exact known.elim notQueued (· noAttempts)
      have stillNot : id ∉ system.jobs.erase other :=
        fun queued => notQueued (List.mem_of_mem_erase queued)
      exact .inr ⟨stillNot, noAttempts, by simp [different, noFailedCalls], asCreated⟩

end Untouched

/-! ## Runs -/

section Runs

variable {collate : String → String} {setting : Setting} {early late : List Label}
  {middle reached : System collate}

theorem sent_or_untouched_of_run {labels : List Label}
    (ran : run (System.step setting) (.idle (.empty collate) []) labels = some reached)
    (id : String) : (∃ index, reached.Sent index id) ∨ reached.Untouched id := by
  have carried : ∀ (source : System collate) label (target : System collate),
      (∃ index, source.Sent index id) ∨ source.Untouched id →
      source.step setting label = some target →
      (∃ index, target.Sent index id) ∨ target.Untouched id := by
    rintro source label target (⟨index, sent⟩ | untouched) stepped
    · exact .inl ⟨index, sent_step sent stepped⟩
    · exact sent_or_untouched_step untouched stepped
  exact run_invariant carried (.inr untouched_idle) ran

/-- What a call has recorded is in the table. -/
theorem mem_receipts_of_recorded {labels : List Label}
    (ran : run (System.step setting) (.idle (.empty collate) []) labels = some reached)
    {call : Call} (isCall : call ∈ reached.calls) {transaction : Transaction}
    (recorded : call.recorded = some transaction) : transaction ∈ reached.receipts := by
  obtain ⟨added, receipts, recordings⟩ := run_relates (fun _ _ _ => records_step) ran
  rw [receipts]
  apply List.mem_append_right
  have isRecorded : transaction ∈ reached.recorded :=
    List.mem_filterMap.mpr ⟨call, isCall, recorded⟩
  exact recordings.mem_iff.mp isRecorded

/-- No two calls have recorded rows with the same id. -/
theorem recorded_id_nodup {labels : List Label}
    (ran : run (System.step setting) (.idle (.empty collate) []) labels = some reached) :
    (reached.recorded.map Transaction.id).Nodup := by
  obtain ⟨added, receipts, recorded⟩ := run_relates (fun _ _ _ => records_step) ran
  have startEmpty : (System.idle (.empty collate) []).receipts = [] ∧
      (System.idle (.empty collate) []).recorded = [] := ⟨rfl, rfl⟩
  rw [startEmpty.1, List.nil_append] at receipts
  rw [startEmpty.2, List.nil_append, ← receipts] at recorded
  have sameIds : reached.receipts.map Transaction.id =
      reached.transactions.stored.map Transaction.id := by
    simp only [System.receipts, List.map_map]
    exact List.map_congr_left fun _ _ => rfl
  apply (recorded.map Transaction.id).nodup_iff.mpr
  rw [sameIds]
  exact reached.transactions.stored_id_nodup

/-- So only one of them sends a job with that id. -/
theorem sent_unique {labels : List Label}
    (ran : run (System.step setting) (.idle (.empty collate) []) labels = some reached)
    {index other : Nat} {id : String} (sent : reached.Sent index id)
    (sentToo : reached.Sent other id) : index = other := by
  obtain ⟨call, transaction, atIndex, returned, sameId⟩ := sent
  obtain ⟨otherCall, otherTransaction, atOther, otherReturned, otherSameId⟩ := sentToo
  have apart := recorded_id_nodup ran
  rw [List.nodup_iff_pairwise_ne, List.pairwise_map, System.recorded,
    List.pairwise_filterMap, List.pairwise_iff_getElem] at apart
  obtain ⟨below, here⟩ := List.getElem?_eq_some_iff.mp atIndex
  obtain ⟨belowToo, there⟩ := List.getElem?_eq_some_iff.mp atOther
  have recorded : call.recorded = some transaction := congrArg CallPhase.recorded returned
  have otherRecorded : otherCall.recorded = some otherTransaction :=
    congrArg CallPhase.recorded otherReturned
  rcases Nat.lt_trichotomy index other with before | same | after
  · have differ := apart index other below belowToo before
    rw [here, there] at differ
    exact absurd (sameId.trans otherSameId.symm) (differ _ recorded _ otherRecorded)
  · exact same
  · have differ := apart other index belowToo below after
    rw [here, there] at differ
    exact absurd (otherSameId.trans sameId.symm) (differ _ otherRecorded _ recorded)

/-- The transaction a call has returned. -/
def CallPhase.returned? : CallPhase → Option Transaction
  | .returned transaction => some transaction
  | .received | .answered _ _ | .inserted _ | .undispatched _ _ | .threw _ => none

theorem CallPhase.returned?_eq_some {phase : CallPhase} {transaction : Transaction} :
    phase.returned? = some transaction ↔ phase = .returned transaction := by
  cases phase <;> simp [returned?]

/-- The transactions the calls have returned, in the order of the calls. -/
def System.returned (system : System collate) : List Transaction :=
  system.calls.filterMap fun call => call.phase.returned?

theorem mem_returned {system : System collate} {transaction : Transaction} :
    transaction ∈ system.returned ↔
      ∃ call ∈ system.calls, call.phase = .returned transaction := by
  simp only [System.returned, List.mem_filterMap, CallPhase.returned?_eq_some]

/-- Their jobs are those that have been sent. -/
theorem mem_returned_id {system : System collate} {id : String} :
    id ∈ system.returned.map Transaction.id ↔ ∃ index, system.Sent index id := by
  rw [List.mem_map]
  constructor
  · rintro ⟨transaction, isReturned, sameId⟩
    obtain ⟨call, isCall, returned⟩ := mem_returned.mp isReturned
    obtain ⟨index, atIndex⟩ := List.mem_iff_getElem?.mp isCall
    exact ⟨index, call, transaction, atIndex, returned, sameId⟩
  · rintro ⟨index, call, transaction, atIndex, returned, sameId⟩
    exact ⟨transaction, mem_returned.mpr ⟨call, List.mem_of_getElem? atIndex, returned⟩, sameId⟩

/-- No transaction is returned twice. -/
theorem returned_id_nodup {labels : List Label}
    (ran : run (System.step setting) (.idle (.empty collate) []) labels = some reached) :
    (reached.returned.map Transaction.id).Nodup := by
  have apart := recorded_id_nodup ran
  rw [List.nodup_iff_pairwise_ne, List.pairwise_map] at apart ⊢
  rw [System.recorded, List.pairwise_filterMap] at apart
  rw [System.returned, List.pairwise_filterMap]
  refine apart.imp fun differ one isOne two isTwo => differ one ?_ two ?_
  · exact congrArg CallPhase.recorded (CallPhase.returned?_eq_some.mp isOne)
  · exact congrArg CallPhase.recorded (CallPhase.returned?_eq_some.mp isTwo)

/-- A job is sent once, and nothing happens without it. In every run of a gateway that
starts empty, a call that has sent the job of an id stays the one that has; there is no
other; the row is in the table as the call recorded it; and as long as no call has sent
the job, nothing is queued or attempted for the id, `failed` is not called, and its row is
as it was created. -/
theorem job_sent_once_of_run
    (ranEarly : run (System.step setting) (.idle (.empty collate) []) early = some middle)
    (ranLate : run (System.step setting) middle late = some reached) (id : String) :
    (∀ index, middle.Sent index id →
      reached.Sent index id ∧ (∀ other, reached.Sent other id → other = index) ∧
      ∃ stored ∈ middle.transactions.stored, stored.id = id ∧
        ∃ call, middle.calls[index]? = some call ∧ call.recorded = some (receipt stored)) ∧
    ((∀ index, ¬ middle.Sent index id) → middle.Untouched id) := by
  have ran : run (System.step setting) (.idle (.empty collate) []) (early ++ late) =
      some reached := by
    rw [run_append, ranEarly]
    exact ranLate
  refine ⟨fun index sent => ?_, fun unsent => ?_⟩
  · have stays : reached.Sent index id :=
      run_invariant (fun _ _ _ held stepped => sent_step held stepped) sent ranLate
    refine ⟨stays, fun other sentToo => sent_unique ran sentToo stays, ?_⟩
    obtain ⟨call, transaction, atIndex, returned, sameId⟩ := sent
    have recorded : call.recorded = some transaction := congrArg CallPhase.recorded returned
    have isReceipt :=
      mem_receipts_of_recorded ranEarly (List.mem_of_getElem? atIndex) recorded
    obtain ⟨stored, isStored, rfl⟩ := List.mem_map.mp isReceipt
    exact ⟨stored, isStored, sameId, call, atIndex, recorded⟩
  · rcases sent_or_untouched_of_run ranEarly id with ⟨index, sent⟩ | untouched
    · exact absurd sent (unsent index)
    · exact untouched

end Runs

/-- The theorem at the bread sale: its job is queued, so one call has sent it. -/
theorem job_sent_once_of_run_bread :
    ∃ index, (queuedRun.get queuedRun_returns).Sent index "1" ∧
      ∀ other, (queuedRun.get queuedRun_returns).Sent other "1" → other = index := by
  have ran : run (System.step shopSetting) (.idle (.empty id) [])
      (recordedBread ++ queuedBread) = some (queuedRun.get queuedRun_returns) := by
    have recorded : run (System.step shopSetting) (.idle (.empty id) []) recordedBread =
        some (recordedRun.get recordedRun_returns) := (Option.some_get recordedRun_returns).symm
    rw [run_append, recorded, Option.bind_some]
    exact (Option.some_get queuedRun_returns).symm
  have ⟨once, unsent⟩ := job_sent_once_of_run ran (run_nil _ _) "1"
  have isQueued : "1" ∈ (queuedRun.get queuedRun_returns).jobs := by decide +kernel
  obtain ⟨index, sent⟩ : ∃ index, (queuedRun.get queuedRun_returns).Sent index "1" := by
    by_contra none
    exact (unsent (not_exists.mp none)).notQueued isQueued
  exact ⟨index, sent, (once index sent).2.1⟩

end TaxGateway.Sales
