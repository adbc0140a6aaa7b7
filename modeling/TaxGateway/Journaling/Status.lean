import TaxGateway.Journaling.Attempts

/-!
Contract: what runs do to `journal_status` and `journal_error_message`.

Owns:
- the updates that keep a `COMPLETED` row `COMPLETED`, and the theorem that
  `COMPLETED` is absorbing in exactly the runs that make no other update of such
  a row;
- the updates that keep status and message coherent, and the same for
  coherence;
- that `PENDING` is left for good, and by whom;
- the shortest runs that break either.

Does not own: what is sent to KRA.
-/

namespace TaxGateway.Journaling

open TaxGateway.Database
open TaxGateway.Services
open TaxGateway.Transitions

/-! ## COMPLETED -/

/-- The update leaves a `COMPLETED` row `COMPLETED`: it writes no other status,
because its model already held that status or because it is rejected. -/
def Write.KeepsCompleted : Write → Prop
  | .setStatus model status => model.status = status ∨ status = .COMPLETED
  | .setFailed model message => model.status = .FAILED ∨ 255 < message.length

/-- A failure that fits is stored, but for what the model already held. -/
theorem setFailed_apply (stored model : JournalColumns) {message : String}
    (fits : message.length ≤ 255) :
    ∃ saved, (Write.setFailed model message).apply stored = saved ∧
      saved.status = JournalColumns.savedStatus stored model .FAILED ∧
      (model.errorMessage.map Varchar.text ≠ some message ∧
          saved.errorMessage.map Varchar.text = some message ∨
        model.errorMessage.map Varchar.text = some message ∧
          saved.errorMessage = stored.errorMessage) := by
  cases updated : stored.updateFailed model message with
  | none =>
      have tooLong := JournalColumns.updateFailed_eq_none_iff.mp updated
      omega
  | some pair =>
      obtain ⟨status, written⟩ := JournalColumns.updateFailed_eq_some updated
      exact ⟨pair.1, by simp [Write.apply, updated], status, written⟩

theorem setFailed_apply_of_tooLong {stored model : JournalColumns} {message : String}
    (tooLong : 255 < message.length) :
    (Write.setFailed model message).apply stored = stored := by
  simp [Write.apply, JournalColumns.updateFailed_eq_none_iff.mpr tooLong]

theorem keepsCompleted_iff {stored : JournalColumns} (completed : stored.status = .COMPLETED)
    (write : Write) : (write.apply stored).status = .COMPLETED ↔ write.KeepsCompleted := by
  cases write with
  | setStatus model status =>
      simp only [Write.apply, JournalColumns.updateStatus, JournalColumns.savedStatus,
        Write.KeepsCompleted]
      split
      next same => simp [same, completed]
      next different => simp [different]
  | setFailed model message =>
      simp only [Write.KeepsCompleted]
      by_cases fits : message.length ≤ 255
      · obtain ⟨saved, rfl, status, -⟩ := setFailed_apply stored model fits
        rw [status, JournalColumns.savedStatus]
        split
        next same => simp [same, completed]
        next different => simp [different, fits]
      · rw [setFailed_apply_of_tooLong (not_le.mp fits)]
        simp [completed, not_le.mp fits]

/-- `COMPLETED` is absorbing in a run exactly when no step of the run updates a
`COMPLETED` row to anything else: no attempt that loaded the row in a status
other than `QUEUED` marks it `QUEUED`, and no `catch` block and no call of
`failed` stores a failure there. -/
theorem completed_absorbing_iff (job : Job) (start : State) (labels : List Label) :
    Absorbing (State.step job) start labels
        (fun state => state.columns.status = .COMPLETED) ↔
      ∀ source label target, Takes (State.step job) start labels source label target →
        source.columns.status = .COMPLETED →
        ∀ write, source.write label = some write → write.KeepsCompleted := by
  apply absorbing_iff_forall_takes
  intro source label target completed stepped
  rw [columns_of_step stepped]
  cases written : source.write label with
  | none => simp [applied, completed]
  | some write => simpa [applied] using keepsCompleted_iff completed write

/-! ## Coherence -/

/-- A row has an error message only while it is `FAILED`. -/
def Coherent (columns : JournalColumns) : Prop :=
  columns.errorMessage ≠ none → columns.status = .FAILED

/-- The update keeps a coherent row coherent: it takes no row with a message out
of `FAILED`, and gives no message to a row that is not, and does not become,
`FAILED`. -/
def Write.KeepsCoherent (stored : JournalColumns) : Write → Prop
  | .setStatus model status =>
      stored.errorMessage = none ∨ model.status = status ∨ status = .FAILED
  | .setFailed model message =>
      255 < message.length ∨ model.status ≠ .FAILED ∨ stored.status = .FAILED ∨
        stored.errorMessage = none ∧ model.errorMessage.map Varchar.text = some message

theorem keepsCoherent_iff {stored : JournalColumns} (coherent : Coherent stored)
    (write : Write) : Coherent (write.apply stored) ↔ write.KeepsCoherent stored := by
  cases write with
  | setStatus model status =>
      simp only [Write.apply, JournalColumns.updateStatus, JournalColumns.savedStatus,
        Write.KeepsCoherent, Coherent]
      by_cases noMessage : stored.errorMessage = none
      · simp [noMessage]
      · have failed := coherent noMessage
        split
        next same => simp [same, failed]
        next different => simp [different, noMessage]
  | setFailed model message =>
      simp only [Write.KeepsCoherent]
      by_cases fits : message.length ≤ 255
      · obtain ⟨saved, applies, status, written⟩ :=
          setFailed_apply stored model fits
        rw [applies, Coherent, status, JournalColumns.savedStatus]
        by_cases modelFailed : model.status = .FAILED
        · by_cases storedFailed : stored.status = .FAILED
          · simp [modelFailed, storedFailed]
          · have noMessage : stored.errorMessage = none := by
              by_contra message
              exact storedFailed (coherent message)
            rcases written with ⟨changes, stores⟩ | ⟨same, kept⟩
            · have hasMessage : saved.errorMessage ≠ none := by
                intro missing
                simp [missing] at stores
              simp [modelFailed, storedFailed, changes, hasMessage, fits]
            · simp [modelFailed, kept, noMessage, same]
        · simp [modelFailed]
      · rw [setFailed_apply_of_tooLong (not_le.mp fits)]
        simp [coherent, not_le.mp fits]

/-- Status and message stay coherent in a run from a freshly signed transaction
exactly when every update of the run keeps them so: none marks a row that holds
a message `QUEUED` or `COMPLETED`, and no call of `failed` that loaded the row
`FAILED` adds a message after the row has left that status. -/
theorem coherent_iff (job : Job) (labels : List Label) :
    (∀ reached, Reaches (State.step job) (.idle .created) labels reached →
        Coherent reached.columns) ↔
      ∀ source label target,
        Takes (State.step job) (.idle .created) labels source label target →
        ∀ write, source.write label = some write → write.KeepsCoherent source.columns := by
  apply forall_reaches_iff_forall_takes
  · intro message
    exact absurd rfl message
  · intro source label target coherent stepped
    rw [columns_of_step stepped]
    cases written : source.write label with
    | none => simp [applied, coherent]
    | some write => simpa [applied] using keepsCoherent_iff coherent write

/-! ## PENDING -/

/-- The status an update sets. -/
def Write.target : Write → JournalStatus
  | .setStatus _ status => status
  | .setFailed _ _ => .FAILED

/-- An update leaves the status alone or sets its own. -/
theorem apply_status (stored : JournalColumns) (write : Write) :
    (write.apply stored).status = stored.status ∨
      (write.apply stored).status = write.target := by
  cases write with
  | setStatus model status =>
      simp only [Write.apply, JournalColumns.updateStatus, JournalColumns.savedStatus,
        Write.target]
      split
      next => exact .inl rfl
      next => exact .inr rfl
  | setFailed model message =>
      by_cases fits : message.length ≤ 255
      · obtain ⟨saved, rfl, status, -⟩ := setFailed_apply stored model fits
        rw [status, JournalColumns.savedStatus]
        split
        next => exact .inl rfl
        next => exact .inr rfl
      · rw [setFailed_apply_of_tooLong (not_le.mp fits)]
        exact .inl rfl

theorem target_ne_pending {state : State} {label : Label} {write : Write}
    (written : state.write label = some write) : write.target ≠ .PENDING := by
  cases label with
  | deliver | callFailed exception => contradiction
  | attempt index transport accepted =>
      obtain ⟨⟨phase, sent, earlier⟩, -, wrote⟩ := Option.bind_eq_some_iff.mp written
      cases phase with
      | loaded model | catching model thrown =>
          obtain rfl := Option.some.inj wrote
          exact nofun
      | sending model rest =>
          cases rest with
          | nil =>
              obtain rfl := Option.some.inj wrote
              exact nofun
          | cons prepared rest => contradiction
      | delivered | completed | threw thrown => contradiction
  | failedCall index =>
      obtain ⟨call, -, wrote⟩ := Option.bind_eq_some_iff.mp written
      cases call with
      | loaded model exception =>
          obtain rfl := Option.some.inj wrote
          exact nofun
      | called exception | returned => contradiction

/-- No step makes a row `PENDING`. -/
theorem status_ne_pending_of_step {job : Job} {state state' : State} {label : Label}
    (stepped : state.step job label = some state')
    (left : state.columns.status ≠ .PENDING) : state'.columns.status ≠ .PENDING := by
  rw [columns_of_step stepped]
  cases written : state.write label with
  | none => exact left
  | some write =>
      rcases apply_status state.columns write with kept | set
      · rw [applied, kept]
        exact left
      · rw [applied, set]
        exact target_ne_pending written

/-- An attempt past its first update has taken the row out of `PENDING`. -/
def Attempt.Settled (status : JournalStatus) (attempt : Attempt) : Prop :=
  match attempt.phase with
  | .delivered => True
  | .loaded model => model.status ≠ .PENDING → status ≠ .PENDING
  | .sending _ _ | .catching _ _ | .completed | .threw _ => status ≠ .PENDING

/-- So has a call of `failed` that returned, if its message fits or the row had
left `PENDING` before. -/
def FailedCall.Settled (status : JournalStatus) : FailedCall → Prop
  | .called exception => exception.message.length ≤ 255 ∨ status ≠ .PENDING
  | .loaded model exception =>
      (exception.message.length ≤ 255 ∨ status ≠ .PENDING) ∧
        (model.status ≠ .PENDING → status ≠ .PENDING)
  | .returned => status ≠ .PENDING

def State.Settled (state : State) : Prop :=
  (∀ attempt ∈ state.attempts, attempt.Settled state.columns.status) ∧
    ∀ call ∈ state.failedCalls, call.Settled state.columns.status

section Settled

variable {job : Job} {status status' : JournalStatus}

theorem Attempt.Settled.mono {attempt : Attempt} (settled : attempt.Settled status)
    (left : status ≠ .PENDING → status' ≠ .PENDING) : attempt.Settled status' := by
  obtain ⟨phase, sent, written⟩ := attempt
  cases phase with
  | delivered => trivial
  | loaded model => exact fun notPending => left (settled notPending)
  | sending model rest | catching model thrown | completed | threw thrown =>
      exact left settled

theorem FailedCall.Settled.mono {call : FailedCall} (settled : call.Settled status)
    (left : status ≠ .PENDING → status' ≠ .PENDING) : call.Settled status' := by
  cases call with
  | called exception => exact settled.imp_right left
  | loaded model exception =>
      exact ⟨settled.1.imp_right left, fun notPending => left (settled.2 notPending)⟩
  | returned => exact left settled

/-- The next step of a settled attempt settles it again. -/
theorem attempt_settled_step {transport : Transport} {accepted : Bool}
    {stored : JournalColumns} {attempt : Attempt} {moved : JournalColumns × Attempt}
    (settled : attempt.Settled stored.status)
    (stepped : attempt.step job transport accepted stored = some moved)
    (left : stored.status ≠ .PENDING → moved.1.status ≠ .PENDING) :
    moved.2.Settled moved.1.status := by
  obtain ⟨phase, sent, written⟩ := attempt
  cases phase with
  | delivered =>
      obtain rfl := Option.some.inj stepped
      exact id
  | loaded model =>
      obtain rfl := Option.some.inj stepped
      simp only [Attempt.Settled, JournalColumns.updateStatus, JournalColumns.savedStatus]
      split
      next queued => exact settled (by rw [queued]; decide)
      next => decide
  | sending model rest =>
      cases rest with
      | nil =>
          obtain rfl := Option.some.inj stepped
          exact left settled
      | cons prepared rest =>
          simp only [Attempt.step] at stepped
          split at stepped
          next =>
            obtain rfl := Option.some.inj stepped
            exact settled
          next =>
            obtain rfl := Option.some.inj stepped
            simp only [raise]
            split
            · exact settled
            · exact settled
  | catching model thrown =>
      simp only [Attempt.step] at stepped
      split at stepped <;> obtain rfl := Option.some.inj stepped <;> exact left settled
  | completed | threw thrown => contradiction

theorem failedCall_settled_step {stored : JournalColumns} {call : FailedCall}
    {moved : JournalColumns × FailedCall} (settled : call.Settled stored.status)
    (stepped : call.step stored = some moved)
    (left : stored.status ≠ .PENDING → moved.1.status ≠ .PENDING) :
    moved.2.Settled moved.1.status := by
  cases call with
  | called exception =>
      obtain rfl := Option.some.inj stepped
      exact ⟨settled, id⟩
  | loaded model exception =>
      obtain ⟨fitsOrLeft, notPending⟩ := settled
      have columns := failedCall_columns stepped
      have returned : moved.2 = .returned := by
        simp only [FailedCall.step] at stepped
        split at stepped <;> obtain rfl := Option.some.inj stepped <;> rfl
      rw [returned]
      rcases fitsOrLeft with fits | alreadyLeft
      · obtain ⟨saved, applies, status, -⟩ := setFailed_apply stored model fits
        rw [columns]
        simp only [FailedCall.Settled, FailedCall.write, applied, applies, status,
          JournalColumns.savedStatus]
        split
        next failed => exact notPending (by rw [failed]; decide)
        next => decide
      · exact left alreadyLeft
  | returned => contradiction

/-- Every step keeps a state settled, if a call of `failed` that it makes can
settle the row or need not. -/
theorem settled_step {state state' : State} {label : Label} (settled : state.Settled)
    (stepped : state.step job label = some state')
    (settles : ∀ exception, label = .callFailed exception →
      exception.message.length ≤ 255 ∨ state.columns.status ≠ .PENDING) :
    state'.Settled := by
  have left := status_ne_pending_of_step stepped
  obtain ⟨attempts, failedCalls⟩ := settled
  cases label with
  | deliver =>
      obtain rfl := Option.some.inj stepped
      refine ⟨?_, failedCalls⟩
      intro attempt member
      rcases List.mem_append.mp member with earlier | new
      · exact attempts attempt earlier
      · rw [List.mem_singleton.mp new]
        trivial
  | attempt index transport accepted =>
      obtain ⟨attempt, moved, atIndex, step, rfl⟩ := step_attempt stepped
      refine ⟨?_, fun call member => (failedCalls call member).mono left⟩
      intro other member
      rcases List.mem_or_eq_of_mem_set member with earlier | rfl
      · exact (attempts other earlier).mono left
      · exact attempt_settled_step (attempts attempt (List.mem_of_getElem? atIndex)) step
          left
  | callFailed exception =>
      obtain rfl := Option.some.inj stepped
      refine ⟨attempts, ?_⟩
      intro call member
      rcases List.mem_append.mp member with earlier | new
      · exact failedCalls call earlier
      · rw [List.mem_singleton.mp new]
        exact settles exception rfl
  | failedCall index =>
      obtain ⟨call, moved, atIndex, step, rfl⟩ := step_failedCall stepped
      refine ⟨fun attempt member => (attempts attempt member).mono left, ?_⟩
      intro other member
      rcases List.mem_or_eq_of_mem_set member with earlier | rfl
      · exact (failedCalls other earlier).mono left
      · exact failedCall_settled_step (failedCalls call (List.mem_of_getElem? atIndex)) step
          left

/-- A call of `failed`, once made, stays on record. -/
theorem failedCalls_ne_nil_of_step {state state' : State} {label : Label}
    (stepped : state.step job label = some state') (called : state.failedCalls ≠ []) :
    state'.failedCalls ≠ [] := by
  cases label with
  | deliver =>
      obtain rfl := Option.some.inj stepped
      exact called
  | attempt index transport accepted =>
      obtain ⟨_, _, -, -, rfl⟩ := step_attempt stepped
      exact called
  | callFailed exception =>
      obtain rfl := Option.some.inj stepped
      simp
  | failedCall index =>
      obtain ⟨_, moved, -, -, rfl⟩ := step_failedCall stepped
      rwa [ne_eq, List.set_eq_nil_iff]

end Settled

/-! ## Runs that break them -/

/-- An undisturbed attempt of the bread job: what it loads, marks, sends and
marks again, with both answers acknowledged. -/
def journaledFrom (index : Nat) : List Label :=
  List.replicate 5 (.attempt index (.answered acknowledged) true)

/-- The journal columns at the end of a run. -/
def columnsAfter (job : Job) (labels : List Label) : Option JournalColumns :=
  (run (State.step job) (.idle .created) labels).map State.columns

/-- The job is delivered again after it has completed: the second attempt marks
the row `QUEUED`. -/
theorem redelivery_leaves_completed :
    ¬ Absorbing (State.step breadJob) (.idle .created)
      ((.deliver :: journaledFrom 0) ++ .deliver :: (journaledFrom 1).take 2)
      (fun state => state.columns.status = .COMPLETED) := by
  intro absorbing
  have first : (columnsAfter breadJob (.deliver :: journaledFrom 0)).map
      JournalColumns.status = some .COMPLETED := by decide +kernel
  have second : (columnsAfter breadJob
      ((.deliver :: journaledFrom 0) ++ .deliver :: (journaledFrom 1).take 2)).map
      JournalColumns.status = some .QUEUED := by decide +kernel
  simp only [columnsAfter, Option.map_map, Option.map_eq_some_iff] at first second
  obtain ⟨reached, ranEarly, completed⟩ := first
  obtain ⟨later, ranLate, queued⟩ := second
  have stays := absorbing _ _ reached later (List.prefix_append _ _) (List.prefix_refl _)
    ranEarly ranLate completed
  rw [Function.comp_apply] at queued
  rw [queued] at stays
  contradiction

/-- A first attempt that times out, and a second one that is acknowledged: the
row ends `COMPLETED` with the message of the failure. -/
theorem retry_keeps_message :
    ¬ ∀ reached,
      Reaches (State.step breadJob) (.idle .created)
        (.deliver :: List.replicate 4 (.attempt 0 (.failed "timed out") false) ++
          .deliver :: journaledFrom 1) reached →
      Coherent reached.columns := by
  intro coherent
  have ended : (columnsAfter breadJob
      (.deliver :: List.replicate 4 (.attempt 0 (.failed "timed out") false) ++
        .deliver :: journaledFrom 1)).map
      (fun columns => (columns.status, columns.errorMessage.isSome)) =
        some (.COMPLETED, true) := by decide +kernel
  simp only [columnsAfter, Option.map_map, Option.map_eq_some_iff] at ended
  obtain ⟨reached, ran, final⟩ := ended
  simp only [Function.comp_apply, Prod.mk.injEq] at final
  have failed := coherent reached ⟨_, List.prefix_refl _, ran⟩ (by
    intro missing
    simp [missing] at final)
  rw [final.1] at failed
  contradiction

end TaxGateway.Journaling
