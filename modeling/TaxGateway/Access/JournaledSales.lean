import TaxGateway.Access.Deployment
import TaxGateway.Journaling.Submission
import TaxGateway.Sales.Projection

/-!
Contract: what KRA is sent for the journal of the sales of the API.

Owns:
- that in a deployment, too, every row is that of a sale whose client may act for the row's
  taxpayer, and on a device of that taxpayer;
- that every attempt sends the commands of its row's journal, in their order, under the PIN
  of that taxpayer.

Does not own: the content of the commands.
-/

namespace TaxGateway.Access

open TaxGateway.Php
open TaxGateway.Database
open TaxGateway.Transitions
open TaxGateway.Services
open TaxGateway.Jobs
open TaxGateway.Jobs.ProcessKraJournalingJob
open TaxGateway.Sales (Setting System)

variable {collate : String → String}

/-! ## Commands of the journal -/

/-- The journal is sent under the PIN of the device's taxpayer. -/
theorem pin_of_mem_journalPlan {device : KraDevice} {transaction : Transaction}
    {command : KraCommand} (planned : .ok command ∈ journalPlan device transaction) :
    device.pin = .ok command.xml.pin := by
  unfold journalPlan at planned
  split at planned
  next => simp at planned
  next => simp at planned
  next pin items hasPin _ =>
    rw [hasPin]
    rcases List.mem_append.mp planned with isLine | isJournal
    · obtain ⟨entry, -, built⟩ := List.mem_map.mp isLine
      obtain ⟨_, _, _, -, -, rfl⟩ := sendReceiptItem_eq_ok built
      rfl
    · obtain ⟨_, -, rfl⟩ := sendReceiptJournal_eq_ok (List.mem_singleton.mp isJournal).symm
      rfl

/-! ## Rows -/

section Rows

variable {installation : Installation} {setting : Setting} {tenants : Tenants}
  {deployment next final : Deployment collate} {events : List Event}

/-- The row is that of a sale, on a device of the taxpayer for whom it was made. -/
structure Sold (installation : Installation) (tenants : Tenants)
    (deployment : Deployment collate) (transaction : Transaction) : Prop where
  ofSale : ∃ entry ∈ deployment.server.exits, IsSale entry.1 ∧
    RowOf collate installation entry.1 tenants transaction
  onDevice : ∃ device ∈ deployment.session.tenants.kraDevices,
    device.id = transaction.kraDeviceId ∧ device.taxpayerPinId = transaction.taxpayerPinId

/-- Permissions are those of the start, and all receipts are of sales. -/
structure AllSold (installation : Installation) (tenants : Tenants)
    (deployment : Deployment collate) : Prop where
  sameTaxpayers : deployment.session.tenants.taxpayerPins = tenants.taxpayerPins
  sameLinks : deployment.session.tenants.apiClientTaxpayerPin = tenants.apiClientTaxpayerPin
  sold : ∀ transaction ∈ deployment.system.receipts,
    Sold installation tenants deployment transaction

/-- What is sold stays sold, if nothing is taken from the log and no device is taken away. -/
theorem Sold.kept {transaction : Transaction}
    (sold : Sold installation tenants deployment transaction)
    (logged : deployment.server.exits ⊆ next.server.exits)
    (grows : Grows deployment.session.tenants next.session.tenants) :
    Sold installation tenants next transaction := by
  obtain ⟨⟨entry, isEntry, ofSale⟩, device, isStored, sameId, sameTaxpayer⟩ := sold
  obtain ⟨later, isLater, laterId, laterTaxpayer⟩ := grows.exists_device isStored
  exact ⟨⟨entry, logged isEntry, ofSale⟩,
    later, isLater, laterId.trans sameId, laterTaxpayer.trans sameTaxpayer⟩

/-- A row and its receipt are of the same sale. -/
theorem sold_receipt_iff {transaction : Transaction} :
    Sold installation tenants deployment (Sales.receipt transaction) ↔
      Sold installation tenants deployment transaction := by
  constructor
  · rintro ⟨⟨entry, isEntry, isSale, hasId, hasKey, ofClient⟩, onDevice⟩
    exact ⟨⟨entry, isEntry, isSale, hasId, hasKey, ofClient⟩, onDevice⟩
  · rintro ⟨⟨entry, isEntry, isSale, hasId, hasKey, ofClient⟩, onDevice⟩
    exact ⟨⟨entry, isEntry, isSale, hasId, hasKey, ofClient⟩, onDevice⟩

theorem allSold_step {event : Event} (allSold : AllSold installation tenants deployment)
    (stepped : deployment.step installation setting event = some next) :
    AllSold installation tenants next := by
  cases event with
  | arrives arrival =>
      obtain rfl := Deployment.step_arrives stepped
      have grows := grows_leaves installation arrival deployment.session
      obtain ⟨sameTaxpayers, sameLinks⟩ :=
        samePermissions_leaves installation arrival deployment.session
      refine ⟨sameTaxpayers.trans allSold.sameTaxpayers, sameLinks.trans allSold.sameLinks, ?_⟩
      intro receipt isReceipt
      obtain ⟨transaction, isStored, rfl⟩ := List.mem_map.mp isReceipt
      rw [sold_receipt_iff]
      have isKept : ∀ old ∈ deployment.session.gateway.transactions.stored,
          Sold installation tenants (deployment.arrived installation arrival) old := by
        intro old wasStored
        have sold := sold_receipt_iff.mp (allSold.sold _ (List.mem_map_of_mem wasStored))
        exact sold.kept (List.subset_append_left _ _) grows
      have isStored : transaction ∈
          (installation.leaves arrival deployment.session).gateway.transactions.stored := isStored
      rcases rows_cases installation arrival deployment.session with
        same | ⟨sold, isSale, isRow, ⟨device, isDevice, sameId, sameTaxpayer⟩, stored⟩
      · rw [same] at isStored
        exact isKept transaction isStored
      · rw [stored] at isStored
        rcases List.mem_append.mp isStored with isOld | isNew
        · exact isKept transaction isOld
        · rw [List.mem_singleton.mp isNew]
          obtain ⟨later, isLater, laterId, laterTaxpayer⟩ := grows.exists_device isDevice
          exact ⟨⟨_, List.mem_append_right _ List.mem_cons_self, isSale,
              isRow.of_same allSold.sameTaxpayers allSold.sameLinks⟩,
            later, isLater, laterId.trans sameId, laterTaxpayer.trans sameTaxpayer⟩
  | works label =>
      obtain ⟨isWork, after, worked, rfl⟩ := Deployment.step_works stepped
      refine ⟨allSold.sameTaxpayers, allSold.sameLinks, fun receipt isReceipt => ?_⟩
      have wasReceipt : receipt ∈ deployment.system.receipts := by
        rw [← Sales.receipts_of_work isWork worked]
        exact isReceipt
      exact (allSold.sold receipt wasReceipt).kept (List.Subset.refl _) (Std.Refl.refl _)

theorem allSold_of_run
    (ran : run (Deployment.step installation setting)
      (fresh tenants setting.kraApi : Deployment collate) events = some final) :
    AllSold installation tenants final := by
  have atStart : AllSold installation tenants
      (fresh tenants setting.kraApi : Deployment collate) :=
    ⟨rfl, rfl, fun receipt isReceipt => absurd isReceipt List.not_mem_nil⟩
  exact run_invariant (fun _ _ _ held stepped => allSold_step held stepped) atStart ran

/-- The device of a row has the PIN of the row's taxpayer. -/
theorem AllSold.exists_owner (allSold : AllSold installation tenants deployment)
    {transaction : Transaction}
    (isStored : transaction ∈ deployment.session.gateway.transactions.stored) :
    ∃ owner ∈ tenants.taxpayerPins, owner.id = transaction.taxpayerPinId ∧
      (deviceOf deployment.session.tenants transaction.kraDeviceId).pin = .ok owner.pin := by
  obtain ⟨⟨entry, -, -, ofEntry⟩, device, isDevice, sameId, sameTaxpayer⟩ :=
    sold_receipt_iff.mp (allSold.sold _ (List.mem_map_of_mem isStored))
  obtain ⟨client, owner, -, isTaxpayer, -, ofOwner⟩ := ofEntry.ofClient
  have owns : deployment.session.tenants.Owns owner device :=
    ⟨isDevice, allSold.sameTaxpayers ▸ isTaxpayer, sameTaxpayer.trans ofOwner⟩
  refine ⟨owner, isTaxpayer, ofOwner.symm, ?_⟩
  rw [← sameId, deviceOf_of_mem isDevice, KraDevice.pin, owns.pin]

/-- Every attempt is at a stored row, and keeps to the plan of its journal. -/
theorem consistent_of_attempt (reports : ReportsSales installation)
    (under : ∀ arrival, .arrives arrival ∈ events → RunsUnder setting arrival)
    (ran : run (Deployment.step installation setting)
      (fresh tenants setting.kraApi : Deployment collate) events = some final)
    {id : String} {attempt : Journaling.Attempt} (isAttempt : attempt ∈ final.attempts id) :
    ∃ transaction ∈ final.session.gateway.transactions.stored, transaction.id = id ∧
      attempt.Consistent ((loading setting final.session.tenants).job transaction) := by
  obtain ⟨labels, reached, ranMachine, mirrors⟩ := mirrors_of_run_fresh reports under ran
  have projected := Sales.projected_of_run ranMachine
  rw [← mirrors.sameAttempts] at isAttempt
  by_cases hasRow : id ∈ reached.transactions.stored.map Transaction.id
  · obtain ⟨transaction, isStored, rfl⟩ := List.mem_map.mp hasRow
    -- The attempt is one of a run of the row's own machine.
    obtain ⟨own, ranOwn⟩ := projected.ownRun transaction isStored
    exact ⟨transaction, mirrors.shares.sameTransactions ▸ isStored, rfl,
      Journaling.consistent_of_run ranOwn attempt isAttempt⟩
  · rw [(projected.onlyStored id hasRow).1] at isAttempt
    cases isAttempt

/-- Workers journal nothing but sales, and in nobody else's name. Whatever an attempt has
sent at any time are the first commands of the journal of its row; the row is that of an API
sale whose client may act for the row's taxpayer; and the commands are sent under the PIN of
this taxpayer. An attempt that has completed has sent the whole journal. -/
theorem journaled_for_owner (reports : ReportsSales installation)
    (under : ∀ arrival, .arrives arrival ∈ events → RunsUnder setting arrival)
    (ran : run (Deployment.step installation setting)
      (fresh tenants setting.kraApi : Deployment collate) events = some final)
    {id : String} {attempt : Journaling.Attempt} (isAttempt : attempt ∈ final.attempts id) :
    ∃ transaction ∈ final.session.gateway.transactions.stored, transaction.id = id ∧
      (∃ entry ∈ final.server.exits, IsSale entry.1 ∧
        RowOf collate installation entry.1 tenants transaction) ∧
      (∃ owner ∈ tenants.taxpayerPins, owner.id = transaction.taxpayerPinId ∧
        ∀ each ∈ attempt.sent, each.command.xml.pin = owner.pin) ∧
      attempt.sent.map (fun each => Except.ok each.command) <+:
        journalPlan (deviceOf final.session.tenants transaction.kraDeviceId) transaction ∧
      (attempt.phase = .completed → Journaling.CompleteJournal
        ((loading setting final.session.tenants).job transaction) attempt.sent) := by
  obtain ⟨transaction, isRow, ofRow, consistent⟩ :=
    consistent_of_attempt reports under ran isAttempt
  have planned := consistent.sent_prefix
  have allSold := allSold_of_run ran
  have sold := sold_receipt_iff.mp (allSold.sold _ (List.mem_map_of_mem isRow))
  obtain ⟨owner, isTaxpayer, ofOwner, hasPin⟩ := allSold.exists_owner isRow
  refine ⟨transaction, isRow, ofRow, sold.ofSale,
    ⟨owner, isTaxpayer, ofOwner, fun each isSent => ?_⟩, planned, fun completed => ?_⟩
  · have underPin := pin_of_mem_journalPlan (planned.subset (List.mem_map_of_mem isSent))
    exact Except.ok.inj (underPin.symm.trans hasPin)
  · unfold Journaling.Attempt.Consistent at consistent
    rw [completed] at consistent
    exact Journaling.completeJournal_of_returned consistent

end Rows

/-! ### The journal of the bread -/

/-- The bread is sold, and a worker journals it. -/
def journaledDay : List Event :=
  breadDay ++
    List.replicate 5 (.works (.work "1" (.attempt 0 (Sales.signedAnswer "P" "KRACU1") true)))

def journaledDayRun : Option (Deployment id) :=
  run (Deployment.step checkedInstallation Sales.shopSetting)
    (fresh Devices.shopSession.tenants Sales.shopSetting.kraApi) journaledDay

theorem journaledDayRun_returns : journaledDayRun.isSome = true := by
  decide +kernel

theorem journaledDay_runsUnder (arrival : Arrival) (arrives : .arrives arrival ∈ journaledDay) :
    RunsUnder Sales.shopSetting arrival := by
  apply breadDay_runsUnder
  simpa [journaledDay] using arrives

theorem journaledDay_attempted :
    0 < ((journaledDayRun.get journaledDayRun_returns).attempts "1").length := by
  decide +kernel

/-- The bread's line is sent in the name of its shop. -/
theorem journaled_for_owner_journaledDay :
    ∃ attempt ∈ (journaledDayRun.get journaledDayRun_returns).attempts "1",
      ∃ owner ∈ twoShops.taxpayerPins, ∀ each ∈ attempt.sent,
        each.command.xml.pin = owner.pin := by
  have isAttempt := List.getElem_mem journaledDay_attempted
  obtain ⟨_, -, -, -, ⟨owner, isTaxpayer, -, under⟩, -⟩ := journaled_for_owner
    (reportsSales_of_saleFailures rfl) journaledDay_runsUnder
    (Option.some_get journaledDayRun_returns).symm isAttempt
  exact ⟨_, isAttempt, owner, isTaxpayer, under⟩

end TaxGateway.Access
