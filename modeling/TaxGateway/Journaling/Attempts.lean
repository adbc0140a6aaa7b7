import TaxGateway.Foundations.Transitions
import TaxGateway.Http.ProcessTransactionRequest
import TaxGateway.Jobs.ProcessKraJournalingJob

/-!
Contract: all journaling of one transaction, as a machine.

The queue delivers the job any number of times (retries, redeliveries) and may
call `failed` at any time; every database statement and every HTTP exchange is a
step of its own, so attempts may overlap in any way. An attempt that is killed
is one that takes no further step.

Owns:
- the phases of `handle` and `failed`, with what an attempt has sent and which
  statuses it has written;
- the machine, and the inversion of each of its steps;
- `Write`, the update a step makes, and that the journal columns change by
  nothing else;
- that an undisturbed attempt does what `handle` says.

Does not own: properties of runs.
-/

namespace TaxGateway.Journaling

open TaxGateway.Php
open TaxGateway.Database
open TaxGateway.Services
open TaxGateway.Jobs
open TaxGateway.Jobs.ProcessKraJournalingJob
open TaxGateway.Transitions

/-- A queued job: the transaction and what its attempts work with. -/
structure Job where
  platform : Platform
  kraApi : KraApi
  device : KraDevice
  transaction : Transaction

def Job.plan (job : Job) : List Prepared :=
  journalPlan job.device job.transaction

/-- An answer that `sendCommand` returns. -/
def acknowledged : HttpResponse := ⟨200, "<response><STATUS>P</STATUS></response>"⟩

/-- The job of a sale of bread. -/
def breadJob : Job where
  platform := KraApi.platformReading
    [(acknowledged.body, .element "response" "" [.element "STATUS" "P" []])]
  kraApi := KraApi.sandbox
  device := shopDevice
  transaction := breadTransaction Http.AcceptedRequest.breadSale.validated

/-! ## Attempts -/

/-- Where an attempt stands in `handle`. `model` is the journal part of its
copy of the row. -/
inductive Phase where
  | delivered
  | loaded (model : JournalColumns)
  | sending (model : JournalColumns) (rest : List Prepared)
  | catching (model : JournalColumns) (thrown : Thrown)
  | completed
  | threw (thrown : Thrown)

/-- A command that was sent: did `sendCommand` return, and did KRA accept the
command? After a timeout it may have accepted it all the same. -/
structure Sent where
  command : KraCommand
  returned : Bool
  accepted : Bool

structure Attempt where
  phase : Phase
  sent : List Sent
  written : List JournalStatus

/-- An attempt just taken from the queue. -/
def Attempt.delivered : Attempt := ⟨.delivered, [], []⟩

/-- Where a thrown value takes an attempt. -/
def raise (model : JournalColumns) (thrown : Thrown) : Phase :=
  if thrown.isException then .catching model thrown else .threw thrown

/-- What a step of the plan puts on the wire. -/
def emitted (prepared : Prepared) (returned accepted : Bool) : List Sent :=
  match prepared with
  | .ok command => [⟨command, returned, accepted⟩]
  | .error _ => []

/-- The next step of an attempt, on the stored columns. `transport` and
`accepted` are the outcome of the HTTP exchange, if it makes one. -/
def Attempt.step (job : Job) (transport : Transport) (accepted : Bool)
    (stored : JournalColumns) (attempt : Attempt) : Option (JournalColumns × Attempt) :=
  match attempt.phase with
  | .delivered => some (stored, { attempt with phase := .loaded stored })
  | .loaded model =>
      let updated := stored.updateStatus model .QUEUED
      some (updated.1,
        { attempt with
          phase := .sending updated.2 job.plan
          written := attempt.written ++ [.QUEUED] })
  | .sending model [] =>
      let updated := stored.updateStatus model .COMPLETED
      some (updated.1,
        { attempt with phase := .completed, written := attempt.written ++ [.COMPLETED] })
  | .sending model (prepared :: rest) =>
      match perform job.platform job.kraApi transport prepared with
      | .ok _ =>
          some (stored,
            { attempt with
              phase := .sending model rest
              sent := attempt.sent ++ emitted prepared true accepted })
      | .error thrown =>
          some (stored,
            { attempt with
              phase := raise model thrown
              sent := attempt.sent ++ emitted prepared false accepted })
  | .catching model thrown =>
      match stored.updateFailed model thrown.message with
      | some updated =>
          some (updated.1,
            { attempt with phase := .threw thrown, written := attempt.written ++ [.FAILED] })
      | none =>
          some (stored,
            { attempt with phase := .threw (.php (.exception (dataTooLong thrown.message))) })
  | .completed => none
  | .threw _ => none

/-- Where a call of `failed` stands. -/
inductive FailedCall where
  | called (exception : Thrown)
  | loaded (model : JournalColumns) (exception : Thrown)
  | returned

def FailedCall.step (stored : JournalColumns) :
    FailedCall → Option (JournalColumns × FailedCall)
  | .called exception => some (stored, .loaded stored exception)
  | .loaded model exception =>
      match stored.updateFailed model exception.message with
      | some updated => some (updated.1, .returned)
      | none => some (stored, .returned)
  | .returned => none

/-! ## The machine -/

structure State where
  columns : JournalColumns
  attempts : List Attempt
  failedCalls : List FailedCall

/-- A row nobody is journaling. -/
def State.idle (columns : JournalColumns) : State := ⟨columns, [], []⟩

inductive Label where
  | deliver
  | attempt (index : Nat) (transport : Transport) (accepted : Bool)
  | callFailed (exception : Thrown)
  | failedCall (index : Nat)

def State.step (job : Job) (state : State) : Label → Option State
  | .deliver => some { state with attempts := state.attempts ++ [.delivered] }
  | .attempt index transport accepted =>
      state.attempts[index]?.bind fun attempt =>
        (attempt.step job transport accepted state.columns).map fun moved =>
          { state with
            columns := moved.1
            attempts := state.attempts.set index moved.2 }
  | .callFailed exception =>
      some { state with failedCalls := state.failedCalls ++ [.called exception] }
  | .failedCall index =>
      state.failedCalls[index]?.bind fun call =>
        (call.step state.columns).map fun moved =>
          { state with
            columns := moved.1
            failedCalls := state.failedCalls.set index moved.2 }

/-- The number of times the job is delivered in a run. -/
def deliveries (labels : List Label) : Nat :=
  labels.countP fun label =>
    match label with
    | .deliver => true
    | _ => false

section Inversion

variable {job : Job} {state state' : State}

theorem step_attempt {index : Nat} {transport : Transport} {accepted : Bool}
    (stepped : state.step job (.attempt index transport accepted) = some state') :
    ∃ attempt moved, state.attempts[index]? = some attempt ∧
      attempt.step job transport accepted state.columns = some moved ∧
      state' = { state with
        columns := moved.1, attempts := state.attempts.set index moved.2 } := by
  obtain ⟨attempt, atIndex, stepped⟩ := Option.bind_eq_some_iff.mp stepped
  obtain ⟨moved, step, rfl⟩ := Option.map_eq_some_iff.mp stepped
  exact ⟨attempt, moved, atIndex, step, rfl⟩

theorem step_failedCall {index : Nat}
    (stepped : state.step job (.failedCall index) = some state') :
    ∃ call moved, state.failedCalls[index]? = some call ∧
      call.step state.columns = some moved ∧
      state' = { state with
        columns := moved.1, failedCalls := state.failedCalls.set index moved.2 } := by
  obtain ⟨call, atIndex, stepped⟩ := Option.bind_eq_some_iff.mp stepped
  obtain ⟨moved, step, rfl⟩ := Option.map_eq_some_iff.mp stepped
  exact ⟨call, moved, atIndex, step, rfl⟩

end Inversion

/-! ## Invariants of attempts -/

section Invariants

variable {job : Job}

/-- What every attempt keeps holds of all attempts, however they interleave. -/
theorem attempts_invariant {Invariant : Attempt → Prop}
    (atDelivery : Invariant .delivered)
    (preserved : ∀ transport accepted stored attempt moved,
      Invariant attempt →
      attempt.step job transport accepted stored = some moved → Invariant moved.2)
    {columns : JournalColumns} {labels : List Label} {state : State}
    (ran : run (State.step job) (.idle columns) labels = some state) :
    ∀ attempt ∈ state.attempts, Invariant attempt := by
  have carried : ∀ source label target, (∀ attempt ∈ source.attempts, Invariant attempt) →
      State.step job source label = some target →
      ∀ attempt ∈ target.attempts, Invariant attempt := by
    intro source label target held stepped attempt member
    cases label with
    | deliver =>
        obtain rfl := Option.some.inj stepped
        rcases List.mem_append.mp member with earlier | new
        · exact held attempt earlier
        · rw [List.mem_singleton.mp new]
          exact atDelivery
    | attempt index transport accepted =>
        obtain ⟨before, moved, atIndex, step, rfl⟩ := step_attempt stepped
        rcases List.mem_or_eq_of_mem_set member with other | rfl
        · exact held attempt other
        · exact preserved transport accepted source.columns before moved
            (held before (List.mem_of_getElem? atIndex)) step
    | callFailed exception =>
        obtain rfl := Option.some.inj stepped
        exact held attempt member
    | failedCall index =>
        obtain ⟨call, moved, -, -, rfl⟩ := step_failedCall stepped
        exact held attempt member
  exact run_invariant carried (by simp [State.idle]) ran

/-- What every step of an attempt extends is extended by every run. -/
theorem attempts_monotone {Extends : Attempt → Attempt → Prop}
    (refl : ∀ attempt, Extends attempt attempt)
    (trans : ∀ first second third, Extends first second → Extends second third →
      Extends first third)
    (extended : ∀ transport accepted stored attempt moved,
      attempt.step job transport accepted stored = some moved → Extends attempt moved.2)
    {state state' : State} {labels : List Label}
    (ran : run (State.step job) state labels = some state') {index : Nat}
    {attempt : Attempt} (atIndex : state.attempts[index]? = some attempt) :
    ∃ later, state'.attempts[index]? = some later ∧ Extends attempt later := by
  have carried : ∀ source label target,
      (∃ later, source.attempts[index]? = some later ∧ Extends attempt later) →
      State.step job source label = some target →
      ∃ later, target.attempts[index]? = some later ∧ Extends attempt later := by
    rintro source label target ⟨current, here, reached⟩ stepped
    cases label with
    | deliver =>
        obtain rfl := Option.some.inj stepped
        obtain ⟨below, -⟩ := List.getElem?_eq_some_iff.mp here
        exact ⟨current, (List.getElem?_append_left below).trans here, reached⟩
    | attempt other transport accepted =>
        obtain ⟨before, moved, atOther, step, rfl⟩ := step_attempt stepped
        exact exists_getElem?_set atOther
          (fun reached => trans _ _ _ reached (extended transport accepted _ _ _ step))
          ⟨current, here, reached⟩
    | callFailed exception =>
        obtain rfl := Option.some.inj stepped
        exact ⟨current, here, reached⟩
    | failedCall other =>
        obtain ⟨call, moved, -, -, rfl⟩ := step_failedCall stepped
        exact ⟨current, here, reached⟩
  exact run_invariant carried ⟨attempt, atIndex, refl attempt⟩ ran

end Invariants

/-! ## Updates -/

/-- An `update` call, with what the model held before it. -/
inductive Write where
  | setStatus (model : JournalColumns) (status : JournalStatus)
  | setFailed (model : JournalColumns) (message : String)

/-- The stored columns after an `update`; a rejected one leaves them alone. -/
def Write.apply (stored : JournalColumns) : Write → JournalColumns
  | .setStatus model status => (stored.updateStatus model status).1
  | .setFailed model message =>
      ((stored.updateFailed model message).map Prod.fst).getD stored

/-- The `update` call an attempt makes in its next step. -/
def Attempt.write (attempt : Attempt) : Option Write :=
  match attempt.phase with
  | .loaded model => some (.setStatus model .QUEUED)
  | .sending model [] => some (.setStatus model .COMPLETED)
  | .catching model thrown => some (.setFailed model thrown.message)
  | _ => none

def FailedCall.write : FailedCall → Option Write
  | .loaded model exception => some (.setFailed model exception.message)
  | _ => none

/-- The `update` call made under a label. -/
def State.write (state : State) : Label → Option Write
  | .attempt index _ _ => state.attempts[index]?.bind Attempt.write
  | .failedCall index => state.failedCalls[index]?.bind FailedCall.write
  | .deliver => none
  | .callFailed _ => none

def applied (stored : JournalColumns) : Option Write → JournalColumns
  | some write => write.apply stored
  | none => stored

section Columns

variable {job : Job} {stored : JournalColumns}

theorem attempt_columns {transport : Transport} {accepted : Bool} {attempt : Attempt}
    {moved : JournalColumns × Attempt}
    (stepped : attempt.step job transport accepted stored = some moved) :
    moved.1 = applied stored attempt.write := by
  obtain ⟨phase, sent, written⟩ := attempt
  cases phase with
  | delivered | loaded model =>
      obtain rfl := Option.some.inj stepped
      rfl
  | sending model rest =>
      cases rest with
      | nil =>
          obtain rfl := Option.some.inj stepped
          rfl
      | cons prepared rest =>
          simp only [Attempt.step] at stepped
          split at stepped <;> obtain rfl := Option.some.inj stepped <;> rfl
  | catching model thrown =>
      simp only [Attempt.step] at stepped
      split at stepped
      next updated saved =>
        obtain rfl := Option.some.inj stepped
        simp [Attempt.write, applied, Write.apply, saved]
      next rejected =>
        obtain rfl := Option.some.inj stepped
        simp [Attempt.write, applied, Write.apply, rejected]
  | completed | threw thrown => contradiction

theorem failedCall_columns {call : FailedCall} {moved : JournalColumns × FailedCall}
    (stepped : call.step stored = some moved) : moved.1 = applied stored call.write := by
  cases call with
  | called exception =>
      obtain rfl := Option.some.inj stepped
      rfl
  | loaded model exception =>
      simp only [FailedCall.step] at stepped
      split at stepped
      next updated saved =>
        obtain rfl := Option.some.inj stepped
        simp [FailedCall.write, applied, Write.apply, saved]
      next rejected =>
        obtain rfl := Option.some.inj stepped
        simp [FailedCall.write, applied, Write.apply, rejected]
  | returned => contradiction

/-- The journal columns change by the step's `update` call and by nothing
else. -/
theorem columns_of_step {state state' : State} {label : Label}
    (stepped : state.step job label = some state') :
    state'.columns = applied state.columns (state.write label) := by
  cases label with
  | deliver | callFailed exception =>
      obtain rfl := Option.some.inj stepped
      rfl
  | attempt index transport accepted =>
      obtain ⟨attempt, moved, atIndex, step, rfl⟩ := step_attempt stepped
      simp only [State.write, atIndex, Option.bind_some]
      exact attempt_columns step
  | failedCall index =>
      obtain ⟨call, moved, atIndex, step, rfl⟩ := step_failedCall stepped
      simp only [State.write, atIndex, Option.bind_some]
      exact failedCall_columns step

end Columns

/-! ## Undisturbed attempts -/

section Undisturbed

variable {job : Job}

/-- The last phase of an attempt with the given outcome. -/
def ended : Except Thrown Unit → Phase
  | .ok () => .completed
  | .error thrown => .threw thrown

/-- A row with one attempt and nothing else going on. -/
def alone (columns : JournalColumns) (attempt : Attempt) : State :=
  ⟨columns, [attempt], []⟩

theorem alone_step {columns : JournalColumns} {attempt : Attempt} {transport : Transport}
    {accepted : Bool} {moved : JournalColumns × Attempt}
    (stepped : attempt.step job transport accepted columns = some moved) :
    (alone columns attempt).step job (.attempt 0 transport accepted) =
      some (alone moved.1 moved.2) := by
  simp [alone, State.step, stepped]

/-- The `catch` block, taken alone. -/
theorem catching_run (columns model : JournalColumns) (thrown : Thrown) (sent : List Sent)
    (written : List JournalStatus) (transport : Transport) :
    ∃ attempt,
      (alone columns ⟨.catching model thrown, sent, written⟩).step job
          (.attempt 0 transport true) =
        some (alone (catchException columns model thrown).2 attempt) ∧
      attempt.phase = .threw (catchException columns model thrown).1 := by
  unfold catchException
  cases updated : columns.updateFailed model thrown.message with
  | none =>
      have stepped : Attempt.step job transport true columns
          ⟨.catching model thrown, sent, written⟩ =
            some (columns, ⟨.threw (.php (.exception (dataTooLong thrown.message))), sent,
              written⟩) := by
        simp only [Attempt.step, updated]
      exact ⟨_, alone_step stepped, rfl⟩
  | some saved =>
      have stepped : Attempt.step job transport true columns
          ⟨.catching model thrown, sent, written⟩ =
            some (saved.1, ⟨.threw thrown, sent, written ++ [.FAILED]⟩) := by
        simp only [Attempt.step, updated]
      exact ⟨_, alone_step stepped, rfl⟩

/-- The `try` block, taken alone from any of its steps on: by induction on the
steps that are left. -/
theorem sending_run (plan : List Prepared) (network : Nat → Transport)
    (columns model : JournalColumns) (sent : List Sent) (written : List JournalStatus) :
    ∃ labels attempt,
      run (State.step job) (alone columns ⟨.sending model plan, sent, written⟩) labels =
        some (alone
          (finish columns model (runPlan job.platform job.kraApi plan network)).2 attempt) ∧
      attempt.phase =
        ended (finish columns model (runPlan job.platform job.kraApi plan network)).1 := by
  induction plan generalizing network sent with
  | nil =>
      have stepped : Attempt.step job (network 0) true columns
          ⟨.sending model [], sent, written⟩ =
            some ((columns.updateStatus model .COMPLETED).1,
              ⟨.completed, sent, written ++ [.COMPLETED]⟩) := rfl
      refine ⟨[.attempt 0 (network 0) true], ⟨.completed, sent, written ++ [.COMPLETED]⟩,
        ?_, rfl⟩
      rw [run_singleton]
      exact alone_step stepped
  | cons prepared rest inductionHypothesis =>
      cases performed : perform job.platform job.kraApi (network 0) prepared with
      | ok response =>
          have stepped : Attempt.step job (network 0) true columns
              ⟨.sending model (prepared :: rest), sent, written⟩ =
                some (columns,
                  ⟨.sending model rest, sent ++ emitted prepared true true, written⟩) := by
            simp only [Attempt.step, performed]
          obtain ⟨labels, attempt, ran, phase⟩ := inductionHypothesis
            (fun n => network (n + 1)) (sent ++ emitted prepared true true)
          refine ⟨.attempt 0 (network 0) true :: labels, attempt, ?_, ?_⟩
          · rw [run_cons, alone_step stepped, Option.bind_some, ran]
            simp only [runPlan, performed]
          · simpa only [runPlan, performed] using phase
      | error thrown =>
          have stepped : Attempt.step job (network 0) true columns
              ⟨.sending model (prepared :: rest), sent, written⟩ =
                some (columns,
                  ⟨raise model thrown, sent ++ emitted prepared false true, written⟩) := by
            simp only [Attempt.step, performed]
          simp only [runPlan, performed, finish]
          by_cases isException : thrown.isException = true
          · simp only [raise, isException, if_true] at stepped ⊢
            obtain ⟨attempt, caught, phase⟩ := catching_run columns model thrown
              (sent ++ emitted prepared false true) written (network 0)
            refine ⟨[.attempt 0 (network 0) true, .attempt 0 (network 0) true],
              attempt, ?_, phase⟩
            rw [run_cons, alone_step stepped, Option.bind_some, run_singleton]
            exact caught
          · simp only [raise, if_neg isException] at stepped ⊢
            refine ⟨[.attempt 0 (network 0) true],
              ⟨.threw thrown, sent ++ emitted prepared false true, written⟩, ?_, rfl⟩
            rw [run_singleton]
            exact alone_step stepped

/-- The machine runs `handle`: an attempt that nobody disturbs leaves the
columns, and ends, as `handle` says. -/
theorem handle_run (job : Job) (network : Nat → Transport) (stored : JournalColumns) :
    ∃ labels attempt,
      run (State.step job) (.idle stored) (.deliver :: labels) =
        some (alone
          (handle job.platform job.kraApi job.device job.transaction network stored).2
          attempt) ∧
      attempt.phase =
        ended (handle job.platform job.kraApi job.device job.transaction network stored).1 := by
  obtain ⟨labels, attempt, ran, phase⟩ := sending_run job.plan network
    (stored.updateStatus stored .QUEUED).1 (stored.updateStatus stored .QUEUED).2 []
    [.QUEUED]
  refine ⟨.attempt 0 (network 0) true :: .attempt 0 (network 0) true :: labels, attempt,
    ?_, phase⟩
  exact ran

end Undisturbed

end TaxGateway.Journaling
