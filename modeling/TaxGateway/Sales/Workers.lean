import TaxGateway.Sales.Ledger

/-!
Contract: the steps of the gateway machine that the workers of the queue take.

Owns:
- which steps these are;
- that they read nothing of the calls, and nothing of a device but the PIN of its taxpayer.

Does not own: the steps of the calls.
-/

namespace TaxGateway.Sales

open TaxGateway.Database
open TaxGateway.Services
open TaxGateway.Jobs.ProcessKraJournalingJob
open TaxGateway.Journaling

/-- A step of a worker. -/
def Label.isWork : Label → Bool
  | .work _ _ | .settle _ | .release _ | .giveUp _ _ => true
  | .request _ _ _ _ | .send _ _ _ | .insert _ _ | .dispatch _ _ => false

/-! ## Devices -/

section Devices

variable {platform : Platform} {kraApi : KraApi} {device device' : KraDevice}
  {transaction : Transaction}

/-- An attempt journals under the PIN, and reads nothing else of the device. -/
theorem attempt_step_eq_of_pin (samePin : device'.pin = device.pin) :
    Attempt.step ⟨platform, kraApi, device', transaction⟩ =
      Attempt.step ⟨platform, kraApi, device, transaction⟩ := by
  have samePlan : Job.plan ⟨platform, kraApi, device', transaction⟩ =
      Job.plan ⟨platform, kraApi, device, transaction⟩ := by
    simp only [Job.plan, journalPlan, samePin]
  funext transport accepted stored attempt
  simp only [Attempt.step, samePlan]

theorem state_step_eq_of_pin (samePin : device'.pin = device.pin) :
    State.step ⟨platform, kraApi, device', transaction⟩ =
      State.step ⟨platform, kraApi, device, transaction⟩ := by
  have sameAttempts :=
    @attempt_step_eq_of_pin platform kraApi device device' transaction samePin
  funext state label
  cases label with
  | attempt index transport accepted => simp only [State.step, sameAttempts]
  | deliver | callFailed | failedCall => rfl

end Devices

/-! ## Steps -/

section Steps

variable {collate : String → String} {setting setting' : Setting} {system : System collate}
  {label : Label}

/-- The settings differ in the devices only, and for the receipts in the table not in
their PINs. -/
structure WorksAlike (setting setting' : Setting) (system : System collate) : Prop where
  samePlatform : setting'.platform = setting.platform
  sameClient : setting'.kraApi = setting.kraApi
  samePin : ∀ transaction ∈ system.transactions.stored,
    (setting'.kraDevice transaction.kraDeviceId).pin =
      (setting.kraDevice transaction.kraDeviceId).pin

theorem step_eq_of_worksAlike (isWork : label.isWork = true)
    (alike : WorksAlike setting setting' system) :
    system.step setting' label = system.step setting label := by
  cases label with
  | work id label =>
      simp only [System.step]
      cases found : system.transactions.find? id with
      | none => rfl
      | some transaction =>
          have isStored := (TransactionsTable.find?_eq_some found).1
          have sameStep : State.step (setting'.job transaction) =
              State.step (setting.job transaction) := by
            rw [Setting.job, Setting.job, alike.samePlatform, alike.sameClient]
            exact state_step_eq_of_pin (alike.samePin transaction isStored)
          simp only [Option.bind_some, sameStep]
  | settle id => rfl
  | release id => rfl
  | giveUp id reason => rfl
  | request | send | insert | dispatch => cases isWork

/-- Whatever calls there are, the workers go on in the same way. -/
theorem step_withCalls (isWork : label.isWork = true) (calls : List Call)
    (signatures : List (Nat × ReceiptKey)) :
    System.step setting { system with calls := calls, signatures := signatures } label =
      (system.step setting label).map fun next =>
        { next with calls := calls, signatures := signatures } := by
  cases label with
  | work id label =>
      have sameAllows : System.allows { system with calls := calls, signatures := signatures }
          id label = system.allows id label := by
        cases label <;> rfl
      simp only [System.step, sameAllows]
      split
      next =>
        cases system.transactions.find? id with
        | none => rfl
        | some transaction =>
            rw [Option.bind_some, Option.bind_some, Option.map_map]
            rfl
      next => rfl
  | settle id =>
      simp only [System.step]
      split <;> rfl
  | release id =>
      simp only [System.step]
      split <;> rfl
  | giveUp id reason =>
      simp only [System.step]
      split
      next =>
        rw [Option.map_map]
        rfl
      next => rfl
  | request | send | insert | dispatch => cases isWork

/-- A worker leaves every receipt as it is. -/
theorem receipts_of_work (isWork : label.isWork = true) {next : System collate}
    (stepped : system.step setting label = some next) : next.receipts = system.receipts := by
  cases label with
  | work id label =>
      obtain ⟨_, state, -, -, -, rfl⟩ := step_work stepped
      exact receipts_setJournaling id state
  | settle id =>
      obtain ⟨-, rfl⟩ := step_settle stepped
      rfl
  | release id =>
      obtain ⟨-, rfl⟩ := step_release stepped
      rfl
  | giveUp id reason =>
      obtain ⟨_, _, -, -, -, rfl⟩ := step_giveUp stepped
      rfl
  | request | send | insert | dispatch => cases isWork

end Steps

end TaxGateway.Sales
