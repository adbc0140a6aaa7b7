import TaxGateway.Access.SoldItems
import TaxGateway.Journaling.ItemNumbers

/-!
Contract: how the attempts at the jobs of sales end.

Owns:
- which commands of a signed sale's journal can be built: its `SEND_RECEIPT`, and the lines
  of the items whose key is a number;
- that an attempt that is over has completed exactly if the items are numbered and all it
  has sent was acknowledged, and otherwise the item at which it stopped.

As in the machine, the database takes every update of the row whose message fits.

Does not own: whether an attempt ends, and whether another follows. Both are up to the
worker.
-/

namespace TaxGateway.Access

open TaxGateway.Php
open TaxGateway.Database
open TaxGateway.Transitions
open TaxGateway.Services
open TaxGateway.Http
open TaxGateway.Jobs
open TaxGateway.Jobs.ProcessKraJournalingJob
open TaxGateway.Sales (Setting System)

variable {collate : String → String}

/-! ## Journals of signed sales -/

/-- Every item has a key that the job's `int $itemIndex` takes. -/
def IsNumbered (transaction : Transaction) : Prop :=
  ∃ items, itemEntries transaction.requestPayload = .ok items ∧
    ∀ item ∈ items, isNumbered item = true

theorem isNumbered_iff {item : Key × Value} :
    isNumbered item = true ↔
      ∃ itemIndex, item.1.toInt "sendReceiptItem(): Argument #5 ($itemIndex)" = .ok itemIndex := by
  unfold isNumbered
  cases item.1.toInt "sendReceiptItem(): Argument #5 ($itemIndex)" with
  | ok itemIndex => simp [Except.toOption]
  | error thrown => simp [Except.toOption]

section Journals

variable {kraApi : KraApi} {exits : List (Arrival × Exit)} {job : Journaling.Job} {pin : String}

/-- The journal of a signed sale: only a line may fail to be built, that of an item without
a number. -/
theorem plan_of_signed (signed : SignedReceipt kraApi exits (Sales.receipt job.transaction))
    (hasPin : job.device.pin = .ok pin) :
    ∃ items journal, itemEntries job.transaction.requestPayload = .ok items ∧
      job.plan = items.map (sendReceiptItem pin job.transaction) ++ [.ok journal] ∧
      ∀ item ∈ items,
        (∃ command, sendReceiptItem pin job.transaction item = .ok command) ↔
          isNumbered item = true := by
  obtain ⟨entry, -, request, buyer, dataNode, kraTimestamp, signedAs⟩ := signed
  obtain ⟨index, xmlPayload, response, -, hasData, parses, asRead⟩ := signedAs.read
  have isRequest : (entry.1.sale request buyer).transactionData = request.validated := rfl
  have stored : Journaling.StoredFor request job.transaction := by
    have ofRead := Journaling.storedFor_of_readAnswer isRequest
      (@Sales.readAnswer_of_accepted _ _ isRequest entry.1.world.platform entry.1.world.config
        xmlPayload response dataNode kraTimestamp hasData parses)
    rw [← asRead] at ofRead
    exact ⟨ofRead.requestPayload, ofRead.receiptType, ofRead.transactionType⟩
  obtain ⟨journal, built⟩ := Journaling.sendReceiptJournal_ok stored pin
  refine ⟨request.items, journal, ?_, ?_, fun item member => ⟨?_, fun numbered => ?_⟩⟩
  · rw [stored.requestPayload]
    exact itemEntries_of_validated request
  · rw [Journaling.plan_of_stored hasPin stored, built]
  · rintro ⟨command, line⟩
    obtain ⟨-, itemIndex, _, converted, -⟩ := sendReceiptItem_eq_ok line
    exact isNumbered_iff.mpr ⟨itemIndex, converted⟩
  · obtain ⟨itemIndex, converted⟩ := isNumbered_iff.mp numbered
    exact sendReceiptItem_ok member converted pin job.transaction

end Journals

/-! ## Endings -/

/-- The attempt has completed, or thrown. One that is killed never gets there. -/
def Ended (attempt : Journaling.Attempt) : Prop :=
  attempt.phase = .completed ∨ ∃ thrown, attempt.phase = .threw thrown

/-- `sendCommand` returned for every command the attempt has sent. -/
def AllReturned (attempt : Journaling.Attempt) : Prop :=
  ∀ each ∈ attempt.sent, each.returned = true

section Endings

variable {build : Key × Value → Prepared} {items : Entries} {journal : KraCommand}
  {plan : List Prepared} {sent : List Journaling.Sent}

/-- A plan that was sent could be built. -/
theorem built_of_returned (planned : plan = items.map build ++ [.ok journal])
    (returned : Journaling.Returned plan sent) :
    ∀ item ∈ items, ∃ command, build item = .ok command := by
  intro item member
  have isStep : build item ∈ plan := by
    rw [planned]
    exact List.mem_append_left _ (List.mem_map_of_mem member)
  rw [returned.1] at isStep
  obtain ⟨each, -, built⟩ := List.mem_map.mp isStep
  exact ⟨each.command, built.symm⟩

/-- An attempt that stopped although all it sent was acknowledged, stopped at the item after
those whose lines it had sent. -/
theorem unbuilt_of_stopped (planned : plan = items.map build ++ [.ok journal])
    (stopped : Journaling.Stopped plan sent)
    (allReturned : ∀ each ∈ sent, each.returned = true) :
    (∃ item thrown, items[sent.length]? = some item ∧ build item = .error thrown) ∧
      ∀ earlier ∈ items.take sent.length, ∃ command, build earlier = .ok command := by
  obtain ⟨done, before, prepared, rest, accepted, splits, returned, rfl⟩ := stopped
  cases prepared with
  | ok command =>
      have last := allReturned ⟨command, false, accepted⟩ (by simp [Journaling.emitted])
      contradiction
  | error thrown =>
      simp only [Journaling.emitted, List.append_nil]
      have sameLength : before.length = done.length := by
        rw [returned.1, List.length_map]
      have steps : items.map build ++ [.ok journal] = done ++ .error thrown :: rest :=
        planned.symm.trans splits
      have atStop : (items.map build ++ [.ok journal])[before.length]? =
          some (.error thrown) := by
        rw [steps, sameLength]
        simp
      rcases Nat.lt_or_ge before.length items.length with below | beyond
      · refine ⟨?_, fun earlier member => ?_⟩
        · rw [List.getElem?_append_left (by simpa using below), List.getElem?_map] at atStop
          obtain ⟨item, atItem, unbuilt⟩ := Option.map_eq_some_iff.mp atStop
          exact ⟨item, thrown, atItem, unbuilt⟩
        · have isDone : (items.take before.length).map build = done := by
            have taken := congrArg (List.take before.length) steps
            rw [List.take_append_of_le_length (by simpa using below.le)] at taken
            rw [List.map_take, taken, sameLength, List.take_left]
          have isStep : build earlier ∈ done := isDone ▸ List.mem_map_of_mem member
          rw [returned.1] at isStep
          obtain ⟨each, -, built⟩ := List.mem_map.mp isStep
          exact ⟨each.command, built.symm⟩
      · rw [List.getElem?_append_right (by simpa using beyond)] at atStop
        have isLast := List.mem_singleton.mp (List.mem_of_getElem? atStop)
        contradiction

/-- How an attempt ends that keeps to such a plan. -/
theorem outcome_of_ended {job : Journaling.Job} {attempt : Journaling.Attempt}
    (consistent : attempt.Consistent job) (ended : Ended attempt)
    (planned : job.plan = items.map build ++ [.ok journal])
    (buildable : ∀ item ∈ items, (∃ command, build item = .ok command) ↔
      isNumbered item = true) :
    (attempt.phase = .completed ↔
      (∀ item ∈ items, isNumbered item = true) ∧ AllReturned attempt) ∧
    (attempt.phase ≠ .completed → AllReturned attempt →
      ∃ item, items[attempt.sent.length]? = some item ∧ isNumbered item = false ∧
        ∀ earlier ∈ items.take attempt.sent.length, isNumbered earlier = true) := by
  unfold Journaling.Attempt.Consistent at consistent
  rcases ended with completed | ⟨thrown, threw⟩
  · rw [completed] at consistent
    have numbered : ∀ item ∈ items, isNumbered item = true := fun item member =>
      (buildable item member).mp (built_of_returned planned consistent item member)
    exact ⟨⟨fun _ => ⟨numbered, consistent.2⟩, fun _ => completed⟩,
      fun notCompleted => absurd completed notCompleted⟩
  · rw [threw] at consistent
    have stops : AllReturned attempt →
        ∃ item, items[attempt.sent.length]? = some item ∧ isNumbered item = false ∧
          ∀ earlier ∈ items.take attempt.sent.length, isNumbered earlier = true := by
      intro allReturned
      obtain ⟨⟨item, _, atStop, unbuilt⟩, earlierBuilt⟩ :=
        unbuilt_of_stopped planned consistent.2 allReturned
      refine ⟨item, atStop, ?_, fun earlier member => ?_⟩
      · rw [← Bool.not_eq_true, ← buildable item (List.mem_of_getElem? atStop), unbuilt]
        simp
      · exact (buildable earlier (List.mem_of_mem_take member)).mp (earlierBuilt earlier member)
    refine ⟨⟨fun completed => ?_, fun ⟨numbered, allReturned⟩ => ?_⟩, fun _ => stops⟩
    · rw [threw] at completed
      contradiction
    · obtain ⟨item, atStop, unnumbered, -⟩ := stops allReturned
      rw [numbered item (List.mem_of_getElem? atStop)] at unnumbered
      contradiction

end Endings

/-! ## Runs -/

section Runs

variable {installation : Installation} {setting : Setting} {tenants : Tenants}
  {final : Deployment collate} {events : List Event}

/-- An attempt that is over has completed exactly if all items of its sale are numbered and
all that it sent was acknowledged. If it has not completed although all was acknowledged, it
has stopped at the first item without a number, with the lines of those before it sent. So
no number of tries gets a sale with such an item journaled, and any other is journaled by
each attempt that ends with all it sent acknowledged. -/
theorem completed_iff_of_ended (reports : ReportsSales installation)
    (under : ∀ arrival, .arrives arrival ∈ events → RunsUnder setting arrival)
    (ran : run (Deployment.step installation setting)
      (fresh tenants setting.kraApi : Deployment collate) events = some final)
    {id : String} {attempt : Journaling.Attempt} (isAttempt : attempt ∈ final.attempts id)
    (ended : Ended attempt) :
    ∃ stored ∈ final.session.gateway.transactions.stored, stored.id = id ∧
      (attempt.phase = .completed ↔ IsNumbered stored ∧ AllReturned attempt) ∧
      (attempt.phase ≠ .completed → AllReturned attempt →
        ∃ items item, itemEntries stored.requestPayload = .ok items ∧
          items[attempt.sent.length]? = some item ∧ isNumbered item = false ∧
          ∀ earlier ∈ items.take attempt.sent.length, isNumbered earlier = true) := by
  obtain ⟨stored, isStored, rfl, consistent⟩ :=
    consistent_of_attempt reports under ran isAttempt
  have signed := (allSigned_of_run reports ran).signed _ (List.mem_map_of_mem isStored)
  obtain ⟨owner, -, -, hasPin⟩ := (allSold_of_run ran).exists_owner isStored
  obtain ⟨items, journal, entries, planned, buildable⟩ :=
    @plan_of_signed _ _ ((loading setting final.session.tenants).job stored) _ signed hasPin
  obtain ⟨completes, stops⟩ := outcome_of_ended consistent ended planned buildable
  have numbered : IsNumbered stored ↔ ∀ item ∈ items, isNumbered item = true := by
    constructor
    · rintro ⟨others, same, each⟩
      obtain rfl := Except.ok.inj (entries.symm.trans same)
      exact each
    · exact fun each => ⟨items, entries, each⟩
  refine ⟨stored, isStored, rfl, completes.trans (and_congr_left fun _ => numbered.symm), ?_⟩
  intro notCompleted allReturned
  obtain ⟨item, stopped⟩ := stops notCompleted allReturned
  exact ⟨items, item, entries, stopped⟩

end Runs

/-! ### The journal of the bread -/

/-- The bread's items are numbered, and all that was sent for it was acknowledged. -/
theorem completed_iff_of_ended_journaledDay :
    ∃ attempt ∈ (journaledDayRun.get journaledDayRun_returns).attempts "1",
      ∃ stored ∈ (journaledDayRun.get journaledDayRun_returns).session.gateway.transactions.stored,
        IsNumbered stored ∧ AllReturned attempt := by
  obtain ⟨attempt, isAttempt, completes⟩ := List.any_eq_true.mp journaledDay_completed
  have completed : attempt.phase = .completed := by
    unfold Sales.isCompleted at completes
    split at completes
    next phase => exact phase
    next => contradiction
  obtain ⟨stored, isStored, -, outcome, -⟩ := completed_iff_of_ended
    (reportsSales_of_saleFailures rfl) journaledDay_runsUnder
    (Option.some_get journaledDayRun_returns).symm isAttempt (.inl completed)
  obtain ⟨numbered, allReturned⟩ := outcome.mp completed
  exact ⟨attempt, isAttempt, stored, isStored, numbered, allReturned⟩

end TaxGateway.Access
