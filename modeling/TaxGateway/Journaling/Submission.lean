import TaxGateway.Journaling.Attempts

/-!
Contract: what the attempts of a job send to KRA.

Owns:
- `Attempt.Consistent`, the invariant that ties what an attempt has sent and
  written to its place in the plan, with its step and run lemmas;
- `COMPLETED` is only written after a complete journal, and a command that
  throws is the last of its attempt;
- each attempt submits each line at most once, and what follows for the number
  of times KRA accepts a line.

Does not own: the journal columns.
-/

namespace TaxGateway.Journaling

open TaxGateway.Php
open TaxGateway.Database
open TaxGateway.Services
open TaxGateway.Jobs
open TaxGateway.Jobs.ProcessKraJournalingJob
open TaxGateway.Transitions

/-! ## The invariant of an attempt -/

/-- These steps were all sent, in this order, and all returned. -/
def Returned (steps : List Prepared) (sent : List Sent) : Prop :=
  steps = sent.map (fun each => .ok each.command) ∧ ∀ each ∈ sent, each.returned = true

/-- The attempt ended at the first step of its plan that threw. -/
def Stopped (plan : List Prepared) (sent : List Sent) : Prop :=
  ∃ done before prepared rest accepted, plan = done ++ prepared :: rest ∧
    Returned done before ∧ sent = before ++ emitted prepared false accepted

/-- What an attempt has sent and written, by its place in `handle`. -/
def Attempt.Consistent (job : Job) (attempt : Attempt) : Prop :=
  match attempt.phase with
  | .delivered => .COMPLETED ∉ attempt.written ∧ attempt.sent = []
  | .loaded _ => .COMPLETED ∉ attempt.written ∧ attempt.sent = []
  | .sending _ rest =>
      .COMPLETED ∉ attempt.written ∧
        ∃ done, job.plan = done ++ rest ∧ Returned done attempt.sent
  | .completed => Returned job.plan attempt.sent
  | .catching _ _ => .COMPLETED ∉ attempt.written ∧ Stopped job.plan attempt.sent
  | .threw _ => .COMPLETED ∉ attempt.written ∧ Stopped job.plan attempt.sent

theorem Returned.append {steps : List Prepared} {sent : List Sent}
    (returned : Returned steps sent) (command : KraCommand) (accepted : Bool) :
    Returned (steps ++ [.ok command]) (sent ++ [⟨command, true, accepted⟩]) := by
  obtain ⟨same, all⟩ := returned
  refine ⟨by simp [same], ?_⟩
  intro each member
  rcases List.mem_append.mp member with earlier | new
  · exact all each earlier
  · rw [List.mem_singleton.mp new]

theorem consistent_raise {job : Job} {model : JournalColumns} {thrown : Thrown}
    {sent : List Sent} {written : List JournalStatus} (incomplete : .COMPLETED ∉ written)
    (stopped : Stopped job.plan sent) :
    Attempt.Consistent job ⟨raise model thrown, sent, written⟩ := by
  unfold raise
  split
  · exact ⟨incomplete, stopped⟩
  · exact ⟨incomplete, stopped⟩

/-- Every step of an attempt keeps it consistent. -/
theorem consistent_step {job : Job} {transport : Transport} {accepted : Bool}
    {stored : JournalColumns} {attempt : Attempt} {moved : JournalColumns × Attempt}
    (consistent : attempt.Consistent job)
    (stepped : attempt.step job transport accepted stored = some moved) :
    moved.2.Consistent job := by
  obtain ⟨phase, sent, written⟩ := attempt
  cases phase with
  | delivered =>
      obtain rfl := Option.some.inj stepped
      exact consistent
  | loaded model =>
      obtain rfl := Option.some.inj stepped
      obtain ⟨incomplete, rfl⟩ := consistent
      exact ⟨by simpa using incomplete, [], rfl, rfl, by simp⟩
  | sending model rest =>
      obtain ⟨incomplete, done, splits, returned⟩ := consistent
      cases rest with
      | nil =>
          obtain rfl := Option.some.inj stepped
          rw [List.append_nil] at splits
          rw [← splits] at returned
          exact returned
      | cons prepared rest =>
          simp only [Attempt.step] at stepped
          split at stepped
          next response performed =>
            obtain rfl := Option.some.inj stepped
            cases prepared with
            | error thrown => simp [perform] at performed
            | ok command =>
                exact ⟨incomplete, done ++ [.ok command], by simp [splits],
                  returned.append command accepted⟩
          next thrown performed =>
            obtain rfl := Option.some.inj stepped
            exact consistent_raise incomplete
              ⟨done, sent, prepared, rest, accepted, splits, returned, rfl⟩
  | catching model thrown =>
      obtain ⟨incomplete, stopped⟩ := consistent
      simp only [Attempt.step] at stepped
      split at stepped
      next =>
        obtain rfl := Option.some.inj stepped
        exact ⟨by simpa using incomplete, stopped⟩
      next =>
        obtain rfl := Option.some.inj stepped
        exact ⟨incomplete, stopped⟩
  | completed | threw thrown => contradiction

section Consistent

variable {job : Job} {attempt : Attempt}

theorem consistent_of_run {columns : JournalColumns} {labels : List Label} {state : State}
    (ran : run (State.step job) (.idle columns) labels = some state) :
    ∀ attempt ∈ state.attempts, attempt.Consistent job :=
  attempts_invariant ⟨by simp [Attempt.delivered], rfl⟩
    (fun _ _ _ _ _ consistent stepped => consistent_step consistent stepped) ran

/-- Three ways for an attempt to stand to its plan. -/
theorem Attempt.Consistent.cases (consistent : attempt.Consistent job) :
    Returned job.plan attempt.sent ∨
      .COMPLETED ∉ attempt.written ∧
        ((∃ done rest, job.plan = done ++ rest ∧ Returned done attempt.sent) ∨
          Stopped job.plan attempt.sent) := by
  obtain ⟨phase, sent, written⟩ := attempt
  cases phase with
  | delivered | loaded model =>
      obtain ⟨incomplete, rfl⟩ := consistent
      exact .inr ⟨incomplete, .inl ⟨[], job.plan, rfl, rfl, by simp⟩⟩
  | sending model rest =>
      obtain ⟨incomplete, done, splits, returned⟩ := consistent
      exact .inr ⟨incomplete, .inl ⟨done, rest, splits, returned⟩⟩
  | completed => exact .inl consistent
  | catching model thrown | threw thrown => exact .inr ⟨consistent.1, .inr consistent.2⟩

/-- The commands sent are the first ones of the plan. -/
theorem Attempt.Consistent.sent_prefix (consistent : attempt.Consistent job) :
    attempt.sent.map (fun each => Except.ok each.command) <+: job.plan := by
  rcases consistent.cases with returned | ⟨-, ⟨done, rest, splits, returned⟩ | stopped⟩
  · exact ⟨[], by rw [List.append_nil, returned.1]⟩
  · exact ⟨rest, by rw [splits, returned.1]⟩
  · obtain ⟨done, before, prepared, rest, accepted, splits, returned, sent⟩ := stopped
    cases prepared with
    | error thrown =>
        exact ⟨.error thrown :: rest, by simp [sent, splits, returned.1, emitted]⟩
    | ok command => exact ⟨rest, by simp [sent, splits, returned.1, emitted]⟩

/-- A command that did not return is the last one sent, and the attempt never
writes `COMPLETED`. -/
theorem Attempt.Consistent.last_of_not_returned (consistent : attempt.Consistent job)
    {k : Nat} {each : Sent} (atK : attempt.sent[k]? = some each)
    (failed : each.returned = false) :
    attempt.sent.length = k + 1 ∧ .COMPLETED ∉ attempt.written := by
  have member := List.mem_of_getElem? atK
  rcases consistent.cases with returned | ⟨incomplete, ⟨_, _, _, returned⟩ | stopped⟩
  · rw [returned.2 each member] at failed
    contradiction
  · rw [returned.2 each member] at failed
    contradiction
  · refine ⟨?_, incomplete⟩
    obtain ⟨done, before, prepared, rest, accepted, -, returned, sent⟩ := stopped
    rw [sent] at atK ⊢
    have beyond : before.length ≤ k := by
      by_contra within
      rw [List.getElem?_append_left (not_le.mp within)] at atK
      rw [returned.2 each (List.mem_of_getElem? atK)] at failed
      contradiction
    obtain ⟨below, -⟩ := List.getElem?_eq_some_iff.mp atK
    cases prepared with
    | error thrown =>
        simp only [emitted, List.append_nil] at below
        omega
    | ok command =>
        simp only [emitted, List.length_append, List.length_singleton] at below ⊢
        omega

/-- A step that cannot be built is never passed. -/
theorem Attempt.Consistent.stopped_at_error (consistent : attempt.Consistent job)
    {k : Nat} {thrown : Throwable} (atK : job.plan[k]? = some (.error thrown)) :
    attempt.sent.length ≤ k ∧ .COMPLETED ∉ attempt.written := by
  have within : attempt.sent.length ≤ k := by
    by_contra beyond
    obtain ⟨rest, splits⟩ := consistent.sent_prefix
    rw [← splits, List.getElem?_append_left (by simpa using beyond), List.getElem?_map,
      Option.map_eq_some_iff] at atK
    obtain ⟨each, -, impossible⟩ := atK
    contradiction
  refine ⟨within, ?_⟩
  rcases consistent.cases with returned | ⟨incomplete, -⟩
  · rw [returned.1, List.getElem?_map, Option.map_eq_some_iff] at atK
    obtain ⟨each, -, impossible⟩ := atK
    contradiction
  · exact incomplete

end Consistent

/-! ## Complete journals -/

/-- One `SEND_RECEIPTITEM` for each entry of `items`, in order, and then the
journal's `SEND_RECEIPT`; all of them returned. -/
def CompleteJournal (job : Job) (sent : List Sent) : Prop :=
  ∃ pin items lines journal,
    job.device.pin = .ok pin ∧
    itemEntries job.transaction.requestPayload = .ok items ∧
    List.Forall₂ (fun entry line =>
      sendReceiptItem pin job.transaction entry = .ok line ∧
        line.xml.command = "SEND_RECEIPTITEM") items lines ∧
    sendReceiptJournal pin job.transaction = .ok journal ∧
    journal.xml.command = "SEND_RECEIPT" ∧
    sent.map Sent.command = lines ++ [journal] ∧ ∀ each ∈ sent, each.returned = true

theorem forall₂_of_map_eq {pin : String} {transaction : Transaction} {items : Entries}
    {sent : List Sent}
    (same : items.map (sendReceiptItem pin transaction) =
      sent.map fun each => .ok each.command) :
    List.Forall₂ (fun entry line =>
      sendReceiptItem pin transaction entry = .ok line ∧
        line.xml.command = "SEND_RECEIPTITEM") items (sent.map Sent.command) := by
  induction items generalizing sent with
  | nil =>
      cases sent with
      | nil => exact .nil
      | cons each rest => simp at same
  | cons entry others inductionHypothesis =>
      cases sent with
      | nil => simp at same
      | cons each rest =>
          simp only [List.map_cons, List.cons.injEq] at same
          obtain ⟨-, _, _, -, -, command⟩ := sendReceiptItem_eq_ok same.1
          exact .cons ⟨same.1, by rw [command]⟩ (inductionHypothesis same.2)

theorem completeJournal_of_returned {job : Job} {sent : List Sent}
    (returned : Returned job.plan sent) : CompleteJournal job sent := by
  obtain ⟨same, all⟩ := returned
  unfold Job.plan journalPlan at same
  split at same
  next thrown _ =>
    cases sent with
    | nil => simp at same
    | cons each rest => simp at same
  next pin thrown hasPin entries =>
    cases sent with
    | nil => simp at same
    | cons each rest => simp at same
  next pin items hasPin entries =>
    obtain ⟨before, last, rfl, lines, journal⟩ := List.map_eq_append_iff.mp same.symm
    obtain ⟨final, rfl, built⟩ := List.map_eq_singleton_iff.mp journal
    obtain ⟨_, -, command⟩ := sendReceiptJournal_eq_ok built.symm
    exact ⟨pin, items, before.map Sent.command, final.command, hasPin, entries,
      forall₂_of_map_eq lines.symm, built.symm, by rw [command], by simp, all⟩

theorem sent_prefix_of_step {job : Job} {transport : Transport} {accepted : Bool}
    {stored : JournalColumns} {attempt : Attempt} {moved : JournalColumns × Attempt}
    (stepped : attempt.step job transport accepted stored = some moved) :
    attempt.sent <+: moved.2.sent := by
  obtain ⟨phase, sent, written⟩ := attempt
  cases phase with
  | delivered | loaded model =>
      obtain rfl := Option.some.inj stepped
      exact List.prefix_refl sent
  | sending model rest =>
      cases rest with
      | nil =>
          obtain rfl := Option.some.inj stepped
          exact List.prefix_refl sent
      | cons prepared rest =>
          simp only [Attempt.step] at stepped
          split at stepped <;> obtain rfl := Option.some.inj stepped <;>
            exact List.prefix_append sent _
  | catching model thrown =>
      simp only [Attempt.step] at stepped
      split at stepped <;> obtain rfl := Option.some.inj stepped <;>
        exact List.prefix_refl sent
  | completed | threw thrown => contradiction

/-- The commands of an attempt are only ever added to. -/
theorem sent_prefix_of_run {job : Job} {state later : State} {labels : List Label}
    (ran : run (State.step job) state labels = some later) {index : Nat}
    {attempt : Attempt} (atIndex : state.attempts[index]? = some attempt) :
    ∃ attempt', later.attempts[index]? = some attempt' ∧ attempt.sent <+: attempt'.sent :=
  @attempts_monotone job (fun before after => before.sent <+: after.sent)
    (fun each => List.prefix_refl each.sent)
    (fun _ _ _ first second => List.IsPrefix.trans first second)
    (fun _ _ _ _ _ stepped => sent_prefix_of_step stepped) state later labels ran index
    attempt atIndex

/-- However attempts overlap: an attempt writes `COMPLETED` only after a
complete journal of its own. Once one of its commands has thrown, the attempt
sends nothing more and never writes `COMPLETED`, then or later; a step that
cannot be built has the same effect. -/
theorem completed_only_after_complete_journal {job : Job} {columns : JournalColumns}
    {labels : List Label} {state : State}
    (ran : run (State.step job) (.idle columns) labels = some state) :
    (∀ attempt ∈ state.attempts, .COMPLETED ∈ attempt.written →
      CompleteJournal job attempt.sent) ∧
    (∀ (more : List Label) (later : State) (index : Nat) (attempt attempt' : Attempt),
      run (State.step job) state more = some later →
      state.attempts[index]? = some attempt → later.attempts[index]? = some attempt' →
      ∀ (k : Nat) (each : Sent), attempt.sent[k]? = some each → each.returned = false →
        attempt.sent.length = k + 1 ∧ attempt'.sent = attempt.sent ∧
          .COMPLETED ∉ attempt'.written) ∧
    ∀ attempt ∈ state.attempts, ∀ (k : Nat) (thrown : Throwable),
      job.plan[k]? = some (.error thrown) →
      attempt.sent.length ≤ k ∧ .COMPLETED ∉ attempt.written := by
  refine ⟨?_, ?_, ?_⟩
  · intro attempt member completed
    rcases (consistent_of_run ran attempt member).cases with returned | ⟨incomplete, -⟩
    · exact completeJournal_of_returned returned
    · contradiction
  · intro more later index attempt attempt' ranMore atIndex atLater k each atK failed
    have length := ((consistent_of_run ran attempt
      (List.mem_of_getElem? atIndex)).last_of_not_returned atK failed).1
    obtain ⟨_, sameIndex, grown⟩ := sent_prefix_of_run ranMore atIndex
    obtain rfl := Option.some.inj (atLater.symm.trans sameIndex)
    have whole : run (State.step job) (.idle columns) (labels ++ more) = some later := by
      rw [run_append, ran]
      exact ranMore
    have consistent := consistent_of_run whole attempt' (List.mem_of_getElem? atLater)
    have still : attempt'.sent[k]? = some each := by
      obtain ⟨extra, extended⟩ := grown
      rw [← extended, List.getElem?_append_left (by omega)]
      exact atK
    obtain ⟨lengthLater, incomplete⟩ := consistent.last_of_not_returned still failed
    exact ⟨length, (grown.eq_of_length (by omega)).symm, incomplete⟩
  · intro attempt member k thrown atK
    exact (consistent_of_run ran attempt member).stopped_at_error atK

/-- An undisturbed attempt of the bread job, with both answers acknowledged. -/
def journaledBread : Option State :=
  run (State.step breadJob) (.idle .created)
    (.deliver :: List.replicate 5 (.attempt 0 (.answered acknowledged) true))

theorem journaledBread_returns : journaledBread.isSome = true := by
  decide +kernel

theorem journaledBread_attempted :
    (journaledBread.get journaledBread_returns).attempts ≠ [] := by
  rw [← List.length_pos_iff]
  decide +kernel

/-- The theorem at that attempt. -/
theorem completed_only_after_complete_journal_breadJob :
    ∃ attempt ∈ (journaledBread.get journaledBread_returns).attempts,
      .COMPLETED ∈ attempt.written ∧ CompleteJournal breadJob attempt.sent := by
  have completed : .COMPLETED ∈ ((journaledBread.get journaledBread_returns).attempts.head
      journaledBread_attempted).written := by
    decide +kernel
  have member := List.head_mem journaledBread_attempted
  have journaled := completed_only_after_complete_journal
    (Option.some_get journaledBread_returns).symm
  exact ⟨_, member, completed, journaled.1 _ member completed⟩

/-! ## How often a line is accepted -/

/-- The accepted `SEND_RECEIPTITEM` commands with the given `ItemNo`. -/
def Attempt.acceptedLines (attempt : Attempt) (itemNo : Int) : Nat :=
  attempt.sent.countP fun each => each.accepted && each.command.itemNo = some itemNo

/-- The accepted journal `SEND_RECEIPT` commands. -/
def Attempt.acceptedJournals (attempt : Attempt) : Nat :=
  attempt.sent.countP fun each => each.accepted && each.command.isJournal

def State.acceptedLines (state : State) (itemNo : Int) : Nat :=
  (state.attempts.map fun attempt => attempt.acceptedLines itemNo).sum

def State.acceptedJournals (state : State) : Nat :=
  (state.attempts.map Attempt.acceptedJournals).sum

/-- Does a step send a command with the given property? -/
def sends (property : KraCommand → Bool) : Prepared → Bool
  | .ok command => property command
  | .error _ => false

/-- An attempt sends commands with a property at most as often as its plan
does. -/
theorem countP_sent_le {job : Job} {attempt : Attempt} (consistent : attempt.Consistent job)
    (property : KraCommand → Bool) :
    (attempt.sent.countP fun each => each.accepted && property each.command) ≤
      job.plan.countP (sends property) := by
  have fromPlan := consistent.sent_prefix.sublist.countP_le (p := sends property)
  rw [List.countP_map] at fromPlan
  refine le_trans (List.countP_mono_left ?_) fromPlan
  intro each _ both
  simp only [Bool.and_eq_true] at both
  exact both.2

/-- The line of an entry has the `ItemNo` that follows the entry's key. -/
theorem itemNo_sendReceiptItem {pin : String} {transaction : Transaction}
    {entry : Key × Value} {command : KraCommand}
    (built : sendReceiptItem pin transaction entry = .ok command) {itemNo : Int}
    (numbered : command.itemNo = some itemNo) :
    entry.1.toInt "sendReceiptItem(): Argument #5 ($itemIndex)" = .ok (itemNo - 1) := by
  obtain ⟨-, itemIndex, data, converted, payload, rfl⟩ := sendReceiptItem_eq_ok built
  have carried : data.lookup "ItemNo" = some (.num ((itemIndex + 1 : Int) : ℚ)) :=
    lookup_itemNo payload
  have number : itemIndex + 1 = itemNo := by
    simpa only [KraCommand.itemNo, if_true, carried, Rat.num_intCast, Option.some.injEq]
      using numbered
  rw [converted]
  congr 1
  omega

/-- The entries of `items` whose line has the given `ItemNo`. -/
def entriesNumbered (requestPayload : Value) (itemNo : Int) : Nat :=
  ((itemEntries requestPayload).toOption.getD []).countP fun entry =>
    entry.1.toInt "sendReceiptItem(): Argument #5 ($itemIndex)" = .ok (itemNo - 1)

/-- A plan has a line with an `ItemNo` for the entries with that number only. -/
theorem countP_plan_itemNo_le (job : Job) (itemNo : Int) :
    job.plan.countP (sends fun command => command.itemNo = some itemNo) ≤
      entriesNumbered job.transaction.requestPayload itemNo := by
  unfold Job.plan journalPlan entriesNumbered
  split
  next => simp [sends]
  next => simp [sends]
  next pin items hasPin entries =>
    have noJournal : [sendReceiptJournal pin job.transaction].countP
        (sends fun command => command.itemNo = some itemNo) = 0 := by
      simp only [List.countP_singleton]
      cases built : sendReceiptJournal pin job.transaction with
      | error thrown => rfl
      | ok command =>
          obtain ⟨data, -, rfl⟩ := sendReceiptJournal_eq_ok built
          rfl
    rw [List.countP_append, noJournal, List.countP_map, entries]
    apply List.countP_mono_left
    intro entry _ numbered
    rw [Function.comp_apply] at numbered
    cases built : sendReceiptItem pin job.transaction entry with
    | error thrown => simp [built, sends] at numbered
    | ok command =>
        rw [built] at numbered
        simpa using itemNo_sendReceiptItem built (of_decide_eq_true numbered)

/-- A plan has one journal command at most. -/
theorem countP_plan_isJournal_le (job : Job) :
    job.plan.countP (sends KraCommand.isJournal) ≤ 1 := by
  unfold Job.plan journalPlan
  split
  next => simp [sends]
  next => simp [sends]
  next pin items hasPin entries =>
    have noItem : (items.map (sendReceiptItem pin job.transaction)).countP
        (sends KraCommand.isJournal) = 0 := by
      rw [List.countP_eq_zero]
      intro prepared member isJournal
      obtain ⟨entry, -, rfl⟩ := List.mem_map.mp member
      cases built : sendReceiptItem pin job.transaction entry with
      | error thrown => simp [built, sends] at isJournal
      | ok command =>
          obtain ⟨-, _, data, -, -, rfl⟩ := sendReceiptItem_eq_ok built
          rw [built] at isJournal
          contradiction
    rw [List.countP_append, noItem, Nat.zero_add]
    exact List.countP_le_length

/-- `items` has distinct integer keys, as every list has. -/
def IntegerKeyed (requestPayload : Value) : Prop :=
  ∃ entries, itemEntries requestPayload = .ok entries ∧
    (entries.map Prod.fst).Nodup ∧ ∀ entry ∈ entries, ∃ key, entry.1 = .int key

theorem entriesNumbered_le_one {requestPayload : Value}
    (keyed : IntegerKeyed requestPayload) (itemNo : Int) :
    entriesNumbered requestPayload itemNo ≤ 1 := by
  obtain ⟨entries, read, distinct, integer⟩ := keyed
  have once := List.nodup_iff_count_le_one.mp distinct (.int (itemNo - 1))
  rw [List.count, List.countP_map] at once
  simp only [entriesNumbered, read]
  refine le_trans (List.countP_mono_left ?_) once
  intro entry member numbered
  obtain ⟨key, isKey⟩ := integer entry member
  simpa [isKey, Key.toInt] using numbered

/-- The attempts of a run are its deliveries. -/
theorem attempts_length {job : Job} {state later : State} {labels : List Label}
    (ran : run (State.step job) state labels = some later) :
    later.attempts.length = state.attempts.length + deliveries labels := by
  induction labels generalizing state with
  | nil =>
      obtain rfl := Option.some.inj ran
      rfl
  | cons label rest inductionHypothesis =>
      rw [run_cons] at ran
      obtain ⟨next, stepped, ranRest⟩ := Option.bind_eq_some_iff.mp ran
      rw [inductionHypothesis ranRest]
      cases label with
      | deliver =>
          obtain rfl := Option.some.inj stepped
          simp [deliveries]
          omega
      | attempt index transport accepted =>
          obtain ⟨_, _, -, -, rfl⟩ := step_attempt stepped
          simp [deliveries]
      | callFailed exception =>
          obtain rfl := Option.some.inj stepped
          simp [deliveries]
      | failedCall index =>
          obtain ⟨_, _, -, -, rfl⟩ := step_failedCall stepped
          simp [deliveries]

theorem sum_le_deliveries {job : Job} {columns : JournalColumns} {labels : List Label}
    {state : State} (ran : run (State.step job) (.idle columns) labels = some state)
    {count : Attempt → Nat} {bound : Nat}
    (each : ∀ attempt ∈ state.attempts, count attempt ≤ bound) :
    (state.attempts.map count).sum ≤ deliveries labels * bound := by
  have length : state.attempts.length = deliveries labels := by
    simpa [State.idle] using attempts_length ran
  have summed := List.sum_le_card_nsmul (state.attempts.map count) bound (by
    intro value member
    obtain ⟨attempt, isAttempt, rfl⟩ := List.mem_map.mp member
    exact each attempt isAttempt)
  simpa [length] using summed

/-- An attempt submits a line at most once, so KRA accepts the line of an item,
and the journal, at most once for each delivery of the job. Entries of `items`
that share an `ItemNo` count as often as there are of them. -/
theorem submissions_le_deliveries {job : Job} {columns : JournalColumns}
    {labels : List Label} {state : State}
    (ran : run (State.step job) (.idle columns) labels = some state) :
    (∀ attempt ∈ state.attempts, attempt.acceptedJournals ≤ 1 ∧
      ∀ itemNo, attempt.acceptedLines itemNo ≤
        entriesNumbered job.transaction.requestPayload itemNo) ∧
    state.acceptedJournals ≤ deliveries labels ∧
    (∀ itemNo, state.acceptedLines itemNo ≤
      deliveries labels * entriesNumbered job.transaction.requestPayload itemNo) ∧
    (IntegerKeyed job.transaction.requestPayload →
      ∀ itemNo, state.acceptedLines itemNo ≤ deliveries labels) := by
  have journals : ∀ attempt ∈ state.attempts, attempt.acceptedJournals ≤ 1 :=
    fun attempt member =>
      (countP_sent_le (consistent_of_run ran attempt member) KraCommand.isJournal).trans
        (countP_plan_isJournal_le job)
  have lines : ∀ itemNo, ∀ attempt ∈ state.attempts, attempt.acceptedLines itemNo ≤
      entriesNumbered job.transaction.requestPayload itemNo :=
    fun itemNo attempt member =>
      (countP_sent_le (consistent_of_run ran attempt member)
        fun command => command.itemNo = some itemNo).trans
        (countP_plan_itemNo_le job itemNo)
  refine ⟨fun attempt member => ⟨journals attempt member, fun itemNo =>
    lines itemNo attempt member⟩, ?_, ?_, ?_⟩
  · simpa only [State.acceptedJournals, Nat.mul_one] using sum_le_deliveries ran journals
  · intro itemNo
    exact sum_le_deliveries ran (lines itemNo)
  · intro keyed itemNo
    have once : ∀ attempt ∈ state.attempts, attempt.acceptedLines itemNo ≤ 1 :=
      fun attempt member =>
        (lines itemNo attempt member).trans (entriesNumbered_le_one keyed itemNo)
    simpa only [State.acceptedLines, Nat.mul_one] using sum_le_deliveries ran once

/-- Two attempts of the bread job: the journal of the first one times out. -/
def resentBread : List Label :=
  [.deliver, .attempt 0 (.answered acknowledged) true,
    .attempt 0 (.answered acknowledged) true, .attempt 0 (.answered acknowledged) true,
    .attempt 0 (.failed "timed out") true, .attempt 0 (.failed "timed out") true] ++
    .deliver :: List.replicate 5 (.attempt 1 (.answered acknowledged) true)

/-- The theorem at that run. -/
theorem submissions_le_deliveries_resentBread :
    ((run (State.step breadJob) (.idle .created) resentBread).get
      (by decide +kernel)).acceptedJournals ≤ deliveries resentBread :=
  (submissions_le_deliveries (Option.some_get _).symm).2.1

/-- The second attempt starts over: KRA accepts the line of item 1 twice, and
the journal twice. -/
theorem resentBread_accepted_twice :
    ∃ state, run (State.step breadJob) (.idle .created) resentBread = some state ∧
      ¬ state.acceptedLines 1 ≤ 1 ∧ ¬ state.acceptedJournals ≤ 1 := by
  have twice : (run (State.step breadJob) (.idle .created) resentBread).map
      (fun state => (state.acceptedLines 1, state.acceptedJournals)) = some (2, 2) := by
    decide +kernel
  obtain ⟨state, ran, counts⟩ := Option.map_eq_some_iff.mp twice
  rw [Prod.mk.injEq] at counts
  exact ⟨state, ran, by omega, by omega⟩

end TaxGateway.Journaling
