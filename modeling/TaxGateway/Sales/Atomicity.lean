import TaxGateway.Sales.Projection

/-!
Contract: row and job of a sale, together or not at all.

`processTransaction` inserts the row and then dispatches its job, with no
transaction around the two: when the dispatch fails, or the process dies before
it, the row stays `PENDING` without a job.

Owns:
- the three outcomes of one call;
- that a `PENDING` row of a reachable state is attended to: its job is queued,
  its call has not dispatched it, or `failed` is about to settle it;
- the call that strands its row.

Does not own: what an attempt does to the row.
-/

namespace TaxGateway.Sales

open TaxGateway.Php
open TaxGateway.Database
open TaxGateway.Http
open TaxGateway.Services
open TaxGateway.Services.KraSalesService
open TaxGateway.Journaling
open TaxGateway.Transitions

/-! ## One call -/

section Outcomes

variable {collate : String → String}

/-- The call returned, and left one new `PENDING` row and one job for it; or it
threw and left nothing. -/
def AllOrNothing (gateway : Gateway collate)
    (result : Except Thrown Transaction × Gateway collate) : Prop :=
  (∃ transaction, result.1 = .ok transaction ∧ transaction.journal.status = .PENDING ∧
      result.2.transactions.stored = gateway.transactions.stored ++ [transaction] ∧
      result.2.jobs = gateway.jobs ++ [transaction.id]) ∨
    (∃ thrown, result.1 = .error thrown) ∧
      result.2.transactions = gateway.transactions ∧ result.2.jobs = gateway.jobs

/-- The call threw and left a new `PENDING` row without a job. -/
def Stranded (gateway : Gateway collate)
    (result : Except Thrown Transaction × Gateway collate) : Prop :=
  ∃ transaction, (∃ thrown, result.1 = .error thrown) ∧
    transaction.journal.status = .PENDING ∧
    result.2.transactions.stored = gateway.transactions.stored ++ [transaction] ∧
    result.2.jobs = gateway.jobs

theorem allOrNothing_or_stranded (platform : Platform) (config : KraConfig) (sale : Sale)
    (network : Outgoing → Transport) (database queue : Option String)
    (gateway : Gateway collate) :
    let result := processTransaction platform config sale network database queue gateway
    AllOrNothing gateway result ∨ queue ≠ none ∧ Stranded gateway result := by
  intro result
  rcases processTransaction_cases with unchanged |
    ⟨xmlPayload, response, transaction, -, read, inserted, dispatched⟩
  · exact .inl (.inr unchanged)
  · have pending : transaction.journal.status = .PENDING := by
      rw [journal_of_readAnswer read]
      rfl
    have stored := (TransactionsTable.insert_eq_ok inserted).2
    rcases dispatched with ⟨-, returned, jobs⟩ | ⟨failed, threw, jobs⟩
    · exact .inl (.inl ⟨transaction, returned, pending, stored, jobs⟩)
    · exact .inr ⟨failed, transaction, threw, pending, stored, jobs⟩

end Outcomes

/-! ## Attended rows -/

/-- The call has inserted the row with this id and not dispatched its job. -/
def Call.Strands (id : String) (call : Call) : Prop :=
  match call.phase with
  | .inserted transaction => transaction.id = id
  | .undispatched transaction _ => transaction.id = id
  | .received | .answered _ _ | .returned _ | .threw _ => False

section Attended

variable {collate : String → String} {setting : Setting} {system system' : System collate}

/-- Some call has inserted the row with this id and not dispatched its job. -/
def System.Stranding (system : System collate) (id : String) : Prop :=
  ∃ index : Nat, ∃ call, system.calls[index]? = some call ∧ call.Strands id

/-- The row with this id has a job, or a call that has not dispatched it, or
`failed` has been called for it. -/
def System.Attended (system : System collate) (id : String) : Prop :=
  id ∈ system.jobs ∨ system.Stranding id ∨ system.failedCalls id ≠ []

theorem System.Attended.mono {id : String} (attended : system.Attended id)
    (queued : id ∈ system.jobs → id ∈ system'.jobs)
    (stranding : system.Stranding id → system'.Stranding id)
    (failed : system.failedCalls id ≠ [] → system'.failedCalls id ≠ []) :
    system'.Attended id :=
  Or.imp queued (Or.imp stranding failed) attended

theorem stranding_setPhase {id : String} {index : Nat} {call : Call}
    (atIndex : system.calls[index]? = some call) {phase : CallPhase}
    (keeps : call.Strands id → Call.Strands id { call with phase := phase })
    (stranding : system.Stranding id) : (system.setPhase index call phase).Stranding id := by
  obtain ⟨other, holder⟩ := stranding
  exact ⟨other, exists_getElem?_set atIndex keeps holder⟩

/-- The invariant of the gateway: attempts have settled their rows, and `PENDING`
ones are attended to. -/
structure Covered (system : System collate) : Prop where
  settled : ∀ transaction ∈ system.transactions.stored,
    (system.journaling transaction).Settled
  attended : ∀ transaction ∈ system.transactions.stored,
    transaction.journal.status = .PENDING → system.Attended transaction.id

theorem covered_idle : Covered (.idle (.empty collate) []) :=
  ⟨fun _ member => by simp [System.idle, TransactionsTable.empty,
      TransactionsTable.stored] at member,
    fun _ member => by simp [System.idle, TransactionsTable.empty,
      TransactionsTable.stored] at member⟩

/-- A call that moves without stranding less keeps the invariant. -/
theorem Covered.setPhase (covered : Covered system) {index : Nat} {call : Call}
    (atIndex : system.calls[index]? = some call) {phase : CallPhase}
    (keeps : ∀ id, call.Strands id → Call.Strands id { call with phase := phase }) :
    Covered (system.setPhase index call phase) :=
  ⟨covered.settled, fun transaction member pending =>
    (covered.attended transaction member pending).mono id
      (stranding_setPhase atIndex (keeps transaction.id)) id⟩

theorem not_strands_of_received {call : Call} (received : call.phase = .received)
    (id : String) : ¬ call.Strands id := by
  simp [Call.Strands, received]

theorem not_strands_of_answered {call : Call} {xmlPayload : KraXml}
    {response : HttpResponse} (answered : call.phase = .answered xmlPayload response)
    (id : String) : ¬ call.Strands id := by
  simp [Call.Strands, answered]

/-- An inserted row is new, so nobody has journaled it, and its call attends to
it. -/
theorem Covered.insert (covered : Covered system) (projected : Projected setting system)
    {index : Nat} {call : Call} (atIndex : system.calls[index]? = some call)
    (strandsNone : ∀ id, ¬ call.Strands id) {transaction : Transaction}
    {transactions : TransactionsTable collate}
    (inserted : system.transactions.insert transaction = .ok transactions) :
    Covered { system.setPhase index call (.inserted transaction) with
      transactions := transactions } := by
  obtain ⟨⟨-, fresh, -⟩, stored⟩ := TransactionsTable.insert_eq_ok inserted
  have isNew : transaction.id ∉ system.transactions.stored.map Transaction.id := by
    simpa [TransactionsTable.stored] using fresh
  have moved : Covered (system.setPhase index call (.inserted transaction)) :=
    covered.setPhase atIndex fun id strands => absurd strands (strandsNone id)
  obtain ⟨below, -⟩ := List.getElem?_eq_some_iff.mp atIndex
  refine ⟨?_, ?_⟩
  · intro other member
    rw [stored] at member
    rcases List.mem_append.mp member with earlier | new
    · exact moved.settled other earlier
    · obtain rfl := List.mem_singleton.mp new
      obtain ⟨noAttempts, noCalls⟩ := projected.onlyStored other.id isNew
      refine ⟨?_, ?_⟩
      · intro attempt held
        simp [System.journaling, System.setPhase, noAttempts] at held
      · intro failed held
        simp [System.journaling, System.setPhase, noCalls] at held
  · intro other member pending
    rw [stored] at member
    rcases List.mem_append.mp member with earlier | new
    · exact moved.attended other earlier pending
    · obtain rfl := List.mem_singleton.mp new
      exact .inr (.inl ⟨index, _, List.getElem?_set_self below, rfl⟩)

/-- A dispatched job takes over from its call. -/
theorem Covered.dispatch (covered : Covered system) {index : Nat} {call : Call}
    (atIndex : system.calls[index]? = some call) {transaction : Transaction}
    (inserted : call.phase = .inserted transaction) :
    Covered { system.setPhase index call (.returned transaction) with
      jobs := system.jobs ++ [transaction.id] } := by
  refine ⟨covered.settled, ?_⟩
  intro other member pending
  by_cases own : other.id = transaction.id
  · exact .inl (by rw [own]; exact List.mem_append_right _ (List.mem_singleton.mpr rfl))
  · have keeps : call.Strands other.id →
        Call.Strands other.id { call with phase := .returned transaction } := by
      intro strands
      simp only [Call.Strands, inserted] at strands
      exact absurd strands.symm own
    exact (covered.attended other member pending).mono (List.mem_append_left _)
      (stranding_setPhase atIndex keeps) id

/-- A step of the journaling of a row keeps the row settled, takes no row into
`PENDING`, and forgets no call of `failed`. -/
theorem Covered.work (covered : Covered system) {id : String} {label : Journaling.Label}
    {transaction : Transaction} {state : Journaling.State}
    (allowed : system.allows id label = true)
    (found : system.transactions.find? id = some transaction)
    (journaled : Journaling.State.step (setting.job transaction)
      (system.journaling transaction) label = some state) :
    Covered (system.setJournaling id state) := by
  obtain ⟨member, hasId⟩ := TransactionsTable.find?_eq_some found
  have before := covered.settled transaction member
  refine ⟨?_, ?_⟩
  · intro other isRow
    rcases setJournaling_rows found isRow with rfl | ⟨wasRow, different⟩
    · rw [journaling_setJournaling_self hasId]
      apply settled_step before journaled
      rintro exception rfl
      contradiction
    · rw [journaling_setJournaling_of_ne different]
      exact covered.settled other wasRow
  · intro other isRow pending
    rcases setJournaling_rows found isRow with rfl | ⟨wasRow, different⟩
    · have wasPending : transaction.journal.status = .PENDING := by
        by_contra left
        exact status_ne_pending_of_step journaled left pending
      refine (covered.attended transaction member wasPending).mono (fun queued => queued)
        (fun stranding => stranding) ?_
      intro failed
      have kept := failedCalls_ne_nil_of_step journaled failed
      simpa [System.setJournaling, hasId] using kept
    · refine (covered.attended other wasRow pending).mono (fun queued => queued)
        (fun stranding => stranding) ?_
      intro failed
      simpa [System.setJournaling, different] using failed

/-- A job is removed only once its row has left `PENDING`. -/
theorem Covered.settle (covered : Covered system) {id : String}
    (ended : ∃ attempt ∈ system.attempts id, attempt.phase = .completed) :
    Covered { system with jobs := system.jobs.erase id } := by
  refine ⟨covered.settled, ?_⟩
  intro other member pending
  have different : other.id ≠ id := by
    rintro rfl
    obtain ⟨attempt, held, completed⟩ := ended
    have settled := (covered.settled other member).1 attempt held
    simp only [Attempt.Settled, completed] at settled
    exact settled pending
  exact (covered.attended other member pending).mono
    (List.mem_erase_of_ne different).mpr (fun stranding => stranding) fun failed => failed

/-- More jobs in the queue attend to no row less. -/
theorem Covered.release (covered : Covered system) (id : String) :
    Covered { system with jobs := system.jobs ++ [id] } :=
  ⟨covered.settled, fun other member pending =>
    (covered.attended other member pending).mono (List.mem_append_left _)
      (fun stranding => stranding) fun failed => failed⟩

/-- A job is given up to a call of `failed`, which settles the row unless the
attempt that threw has. -/
theorem Covered.giveUp (covered : Covered system) (setting : Setting) {id : String}
    {reason : GivingUp} {exception : Thrown}
    (given : reason.exception (system.attempts id) = some exception) :
    Covered { system with
      jobs := system.jobs.erase id
      failedCalls := Function.update system.failedCalls id
        (system.failedCalls id ++ [.called exception]) } := by
  refine ⟨?_, ?_⟩
  · intro other member
    by_cases own : other.id = id
    · have attempts := (covered.settled other member).1
      apply settled_step (covered.settled other member) (journaling_giveUp setting own exception)
      rintro _ ⟨⟩
      refine (exception_fits_or_threw given).imp_right ?_
      rintro ⟨attempt, worked, threw⟩
      have settled := attempts attempt (by simpa [System.journaling, own] using worked)
      simpa only [Attempt.Settled, threw] using settled
    · have same := covered.settled other member
      simpa [System.journaling, own] using same
  · intro other member pending
    by_cases own : other.id = id
    · exact .inr (.inr (by simp [own]))
    · refine (covered.attended other member pending).mono
        (List.mem_erase_of_ne own).mpr (fun stranding => stranding) ?_
      intro failed
      simpa [own] using failed

theorem covered_step (covered : Covered system) (projected : Projected setting system)
    {label : Label} (stepped : system.step setting label = some system') :
    Covered system' := by
  cases label with
  | request request device uuid now =>
      obtain rfl := Option.some.inj stepped
      refine ⟨covered.settled, ?_⟩
      intro transaction member pending
      refine (covered.attended transaction member pending).mono id ?_ id
      rintro ⟨index, call, atIndex, strands⟩
      obtain ⟨below, -⟩ := List.getElem?_eq_some_iff.mp atIndex
      exact ⟨index, call, (List.getElem?_append_left below).trans atIndex, strands⟩
  | send index transport signs =>
      obtain ⟨call, atIndex, received, rfl⟩ := step_send stepped
      have moved : Covered (system.setPhase index call (call.send setting transport)) :=
        covered.setPhase atIndex fun id strands =>
          absurd strands (not_strands_of_received received id)
      exact ⟨moved.settled, moved.attended⟩
  | insert index database =>
      obtain ⟨call, _, _, atIndex, answered,
        ⟨thrown, rfl⟩ | ⟨transaction, transactions, -, inserted, rfl⟩⟩ :=
        step_insert stepped
      · exact covered.setPhase atIndex fun id strands =>
          absurd strands (not_strands_of_answered answered id)
      · exact covered.insert projected atIndex (not_strands_of_answered answered) inserted
  | dispatch index queue =>
      obtain ⟨call, transaction, atIndex, inserted, ⟨thrown, rfl⟩ | rfl⟩ :=
        step_dispatch stepped
      · apply covered.setPhase atIndex
        intro id strands
        simpa only [Call.Strands, inserted] using strands
      · exact covered.dispatch atIndex inserted
  | work id label =>
      obtain ⟨transaction, state, allowed, found, journaled, rfl⟩ := step_work stepped
      exact covered.work allowed found journaled
  | settle id =>
      obtain ⟨ended, rfl⟩ := step_settle stepped
      exact covered.settle ended
  | release id =>
      obtain ⟨-, rfl⟩ := step_release stepped
      exact covered.release id
  | giveUp id reason =>
      obtain ⟨_, exception, -, given, -, rfl⟩ := step_giveUp stepped
      exact covered.giveUp setting given

theorem covered_of_run {labels : List Label}
    (ran : run (System.step setting) (.idle (.empty collate) []) labels = some system) :
    Covered system := by
  have preserved : ∀ (source : System collate) (label : Label) (target : System collate),
      Projected setting source ∧ Covered source →
      System.step setting source label = some target →
      Projected setting target ∧ Covered target :=
    fun _ _ _ held stepped =>
      ⟨projected_step held.1 stepped, covered_step held.2 held.1 stepped⟩
  exact (run_invariant preserved ⟨projected_idle setting, covered_idle⟩ ran).2

end Attended

/-! ## Runs -/

/-- A call leaves its row and its job, or neither, unless the queue fails: then
the row stays behind. So in every reachable state a `PENDING` row has its job in
the queue, or a call that has not, or not successfully, dispatched it, or a call
of `failed` in progress. -/
theorem pending_has_job_or_stranded (collate : String → String) :
    (∀ (platform : Platform) (config : KraConfig) (sale : Sale)
        (network : Outgoing → Transport) (database queue : Option String)
        (gateway : Gateway collate),
      let result := processTransaction platform config sale network database queue gateway
      AllOrNothing gateway result ∨ queue ≠ none ∧ Stranded gateway result) ∧
    ∀ (setting : Setting) (labels : List Label) (reached : System collate),
      run (System.step setting) (.idle (.empty collate) []) labels = some reached →
      ∀ transaction ∈ reached.transactions.stored,
        transaction.journal.status = .PENDING →
        transaction.id ∈ reached.jobs ∨
          (∃ call ∈ reached.calls, call.Strands transaction.id) ∨
          ∃ failed ∈ reached.failedCalls transaction.id, failed ≠ .returned := by
  refine ⟨allOrNothing_or_stranded, ?_⟩
  intro setting labels reached ran transaction member pending
  have covered := covered_of_run ran
  rcases covered.attended transaction member pending with
    queued | ⟨index, call, atIndex, strands⟩ | failed
  · exact .inl queued
  · exact .inr (.inl ⟨call, List.mem_of_getElem? atIndex, strands⟩)
  · obtain ⟨call, called⟩ := List.exists_mem_of_ne_nil _ failed
    refine .inr (.inr ⟨call, called, ?_⟩)
    rintro rfl
    exact (covered.settled transaction member).2 _ called pending

/-! ### A failing queue -/

/-- The bread sale is signed and inserted; the queue refuses its job. -/
def strandedBread : List Label :=
  [breadRequest "1", .send 0 (signedAnswer "P" "KRACU1") true, .insert 0 none,
    .dispatch 0 (some "queue down")]

def strandedRun : Option (System id) :=
  run (System.step shopSetting) (.idle (.empty id) []) strandedBread

/-- The run ends with one row, which is `PENDING`. -/
theorem strandedRun_statuses :
    (strandedRun.map fun system =>
      system.transactions.stored.map fun transaction => transaction.journal.status) =
        some [.PENDING] := by
  decide +kernel

theorem strandedRun_returns : strandedRun.isSome = true := by
  rw [← Option.isSome_map, strandedRun_statuses]
  rfl

theorem strandedRun_stored_statuses :
    (strandedRun.get strandedRun_returns).transactions.stored.map
      (fun transaction => transaction.journal.status) = [.PENDING] := by
  have statuses := strandedRun_statuses
  rw [← Option.some_get strandedRun_returns, Option.map_some] at statuses
  exact Option.some.inj statuses

/-- The theorem at that run: its row is `PENDING`, and has a call that stranded
it. -/
theorem pending_has_job_or_stranded_bread :
    ∃ transaction ∈ (strandedRun.get strandedRun_returns).transactions.stored,
      transaction.journal.status = .PENDING ∧
        (transaction.id ∈ (strandedRun.get strandedRun_returns).jobs ∨
          (∃ call ∈ (strandedRun.get strandedRun_returns).calls,
            call.Strands transaction.id) ∨
          ∃ failed ∈ (strandedRun.get strandedRun_returns).failedCalls transaction.id,
            failed ≠ .returned) := by
  obtain ⟨transaction, member, pending⟩ := List.mem_map.mp
    (strandedRun_stored_statuses ▸ List.mem_singleton_self JournalStatus.PENDING)
  exact ⟨_, member, pending, (pending_has_job_or_stranded id).2 shopSetting strandedBread _
    (Option.some_get strandedRun_returns).symm _ member pending⟩

/-- The call throws, but its row stays. -/
theorem queue_failure_not_allOrNothing :
    ¬ AllOrNothing emptyGateway
      (processTransaction (shopPlatform "P" "KRACU1") shopConfig (breadSale "1")
        (fun _ => signedAnswer "P" "KRACU1") none (some "queue down") emptyGateway) := by
  have ended : (fun result : Except Thrown Transaction × Gateway id =>
      (result.1.toOption.isNone, result.2.transactions.rows.length))
        (processTransaction (shopPlatform "P" "KRACU1") shopConfig (breadSale "1")
          (fun _ => signedAnswer "P" "KRACU1") none (some "queue down") emptyGateway) =
            (true, 1) := by decide +kernel
  obtain ⟨threw, stored⟩ := Prod.mk.inj ended
  rintro (⟨transaction, returned, -⟩ | ⟨-, unchanged, -⟩)
  · rw [returned] at threw
    exact absurd threw Bool.false_ne_true
  · rw [unchanged] at stored
    exact absurd stored Nat.zero_ne_one

end TaxGateway.Sales
