import TaxGateway.Http.ProcessTransactionRequest
import TaxGateway.Jobs.ProcessKraJournalingJob

/-!
Contract: which failures of a journaling attempt reach the row.

Owns:
- `Recorded`, what the row must say once an attempt has thrown;
- the exact condition on payload and answers under which `handle` gets there,
  and the one for `failed`;
- a sale whose attempt throws and stays `QUEUED`.

Does not own: what overlapping attempts do to the row.
-/

namespace TaxGateway.Jobs.ProcessKraJournalingJob

open TaxGateway.Php
open TaxGateway.Database
open TaxGateway.Http
open TaxGateway.Services

/-- An attempt that threw left the row `FAILED` with the message thrown. -/
def Recorded (outcome : Except Thrown Unit × JournalColumns) : Prop :=
  ∀ thrown, outcome.1 = .error thrown →
    outcome.2.status = .FAILED ∧
      outcome.2.errorMessage.map Varchar.text = some thrown.message

section Exactness

variable (platform : Platform) (kraApi : KraApi)

/-- A step can only throw what the `catch` block can store: an `\Exception`
with a message of at most 255 characters. `KraApiException` is one, and simulation mode
throws no other kind for a journal. -/
def StepRecordable (transport : Transport) : Prepared → Prop
  | .error thrown => thrown.isException = true ∧ thrown.message.length ≤ 255
  | .ok command =>
      ∀ thrown,
        KraApi.sendCommand platform kraApi command.endpoint command.xml false
          (fun _ => transport) = .error thrown →
        thrown.isException = true ∧ thrown.message.length ≤ 255

/-- Every step that an attempt gets to can only throw what can be stored. -/
def FailuresRecordable (plan : List Prepared) (network : Nat → Transport) : Prop :=
  ∀ k prepared, plan[k]? = some prepared →
    (∀ j < k, ∀ earlier, plan[j]? = some earlier →
      ∃ response, perform platform kraApi (network j) earlier = .ok response) →
    StepRecordable platform kraApi (network k) prepared

variable {platform kraApi}

theorem stepRecordable_iff {transport : Transport} {prepared : Prepared} :
    StepRecordable platform kraApi transport prepared ↔
      ∀ thrown, perform platform kraApi transport prepared = .error thrown →
        thrown.isException = true ∧ thrown.message.length ≤ 255 := by
  cases prepared with
  | error thrown => simp [StepRecordable, perform, Thrown.isException, Thrown.message]
  | ok command => rfl

/-- The condition, read off the first step that throws. -/
theorem failuresRecordable_iff {plan : List Prepared} {network : Nat → Transport} :
    FailuresRecordable platform kraApi plan network ↔
      ∀ thrown, runPlan platform kraApi plan network = .error thrown →
        thrown.isException = true ∧ thrown.message.length ≤ 255 := by
  constructor
  · intro recordable thrown ran
    obtain ⟨k, prepared, atK, before, fails⟩ := runPlan_eq_error_iff.mp ran
    exact stepRecordable_iff.mp (recordable k prepared atK before) thrown fails
  · intro storable k prepared atK before
    refine stepRecordable_iff.mpr ?_
    intro thrown fails
    exact storable thrown (runPlan_eq_error_iff.mpr ⟨k, prepared, atK, before, fails⟩)

/-- A single attempt is recorded exactly when every step it gets to can only
throw what can be stored. -/
theorem recorded_handle_iff (device : KraDevice) (transaction : Transaction)
    (network : Nat → Transport) (stored : JournalColumns) :
    Recorded (handle platform kraApi device transaction network stored) ↔
      FailuresRecordable platform kraApi (journalPlan device transaction) network := by
  rw [failuresRecordable_iff]
  cases ran : runPlan platform kraApi (journalPlan device transaction) network with
  | ok done =>
      rw [handle_of_ok stored ran]
      simp [Recorded]
  | error thrown =>
      simp only [Except.error.injEq, forall_eq']
      constructor
      · intro recorded
        by_cases isException : thrown.isException = true
        · refine ⟨isException, ?_⟩
          by_contra tooLong
          rw [handle_of_tooLong stored ran isException (by omega)] at recorded
          exact absurd (recorded _ rfl).1 nofun
        · rw [handle_of_error stored ran (by simpa using isException)] at recorded
          exact absurd (recorded _ rfl).1 nofun
      · rintro ⟨isException, fits⟩ other threw
        obtain ⟨same, status, message⟩ :=
          handle_of_exception stored ran isException fits
        obtain rfl := Except.error.inj (same.symm.trans threw)
        exact ⟨status, message⟩

/-- `failed` leaves the row `FAILED` exactly when its message fits or the row
was `FAILED` before. -/
theorem failed_status_iff (exception : Thrown) (stored : JournalColumns) :
    (failed exception stored).2.status = .FAILED ↔
      exception.message.length ≤ 255 ∨ stored.status = .FAILED := by
  unfold failed
  split
  next saved model updated =>
    have fits : exception.message.length ≤ 255 := by
      by_contra tooLong
      have rejected : stored.updateFailed stored exception.message = none :=
        JournalColumns.updateFailed_eq_none_iff.mpr (not_le.mp tooLong)
      rw [updated] at rejected
      contradiction
    have status := (JournalColumns.updateFailed_eq_some updated).1
    have isFailed : saved.status = .FAILED := by
      rw [status, JournalColumns.savedStatus]
      split
      next same => exact same
      next => rfl
    simp [fits, isFailed]
  next rejected =>
    have tooLong := JournalColumns.updateFailed_eq_none_iff.mp rejected
    simp only [not_le.mpr tooLong, false_or]

/-- A message that does not fit leaves the row as it was. -/
theorem failed_of_tooLong {exception : Thrown} (stored : JournalColumns)
    (tooLong : 255 < exception.message.length) : (failed exception stored).2 = stored := by
  have rejected : stored.updateFailed stored exception.message = none :=
    JournalColumns.updateFailed_eq_none_iff.mpr tooLong
  rw [failed, rejected]

end Exactness

/-- Failed attempts are recorded by `handle` exactly when each step reached can
only throw an `\Exception` whose message fits, and by `failed` exactly when the
message fits or the row says `FAILED` already. -/
theorem attempt_recorded_iff (platform : Platform) (kraApi : KraApi) (device : KraDevice)
    (transaction : Transaction) :
    (∀ network stored,
      Recorded (handle platform kraApi device transaction network stored) ↔
        FailuresRecordable platform kraApi (journalPlan device transaction) network) ∧
    ∀ exception stored,
      (failed exception stored).2.status = .FAILED ↔
        exception.message.length ≤ 255 ∨ stored.status = .FAILED :=
  ⟨recorded_handle_iff device transaction, failed_status_iff⟩

/-! ## A failure that is not recorded -/

/-- `items` was accepted as a JSON object with the key `first`, which is no
`int $itemIndex`: the `TypeError` leaves the row `QUEUED`. So does a call of
`failed` with a message of 256 characters. -/
theorem keyedBreadSale_not_recorded :
    ¬ Recorded (handle (KraApi.platformReading []) KraApi.sandbox shopDevice
        (breadTransaction AcceptedRequest.keyedBreadSale.validated)
        (fun _ => .failed "timeout") .created) ∧
      (failed (.php (.exception (String.ofList (List.replicate 256 'x'))))
        ⟨.QUEUED, none⟩).2.status = .QUEUED := by
  have tooLong : 255 < (Thrown.php (.exception
      (String.ofList (List.replicate 256 'x')))).message.length := by
    rw [Thrown.message, Throwable.message, String.length_ofList, List.length_replicate]
    omega
  refine ⟨fun recorded => ?_, congrArg JournalColumns.status (failed_of_tooLong _ tooLong)⟩
  have ran : runPlan (KraApi.platformReading []) KraApi.sandbox
      (journalPlan shopDevice (breadTransaction AcceptedRequest.keyedBreadSale.validated))
      (fun _ => .failed "timeout") =
        .error (.php (.error
          "sendReceiptItem(): Argument #5 ($itemIndex) must be of type int, string given")) := by
    decide +kernel
  rw [handle_of_error .created ran rfl] at recorded
  exact absurd (recorded _ rfl).1 (by simp)

end TaxGateway.Jobs.ProcessKraJournalingJob
