import TaxGateway.Devices.ActivationRecovery
import TaxGateway.Devices.StatusChecks

/-!
Contract: what a status check that no other check overlaps leaves in the device's row.

Owns:
- the outcomes of the command that tell whether the device is operational;
- when the check returns that it is;
- the theorem that a check leaves its verdict exactly after such an outcome, if the
  database takes it, or where the row already held it.

Does not own: overlapping checks.
-/

namespace TaxGateway.Devices

open TaxGateway.Php
open TaxGateway.Database
open TaxGateway.Effects
open TaxGateway.Services
open TaxGateway.Services.Session
open TaxGateway.Services.KraDeviceService

/-! ## Outcomes -/

/-- A `KraApiException`, or an answer that can be read and has a `DATA` node. -/
def IsConclusive (platform : Platform) : Except Thrown HttpResponse → Prop
  | .error (.kraApi _) => True
  | .error (.php _) => False
  | .ok response => ∃ parsedXml, platform.simplexmlLoadString response.body = some parsedXml ∧
      (parsedXml.child? "DATA").isSome = true

theorem isConclusive_iff {platform : Platform} {outcome : Except Thrown HttpResponse} :
    IsConclusive platform outcome ↔ ∃ operational, finding platform outcome = some operational := by
  cases outcome with
  | error thrown => cases thrown <;> simp [IsConclusive, finding]
  | ok response =>
      cases parsed : platform.simplexmlLoadString response.body with
      | none => simp [IsConclusive, finding, parsed]
      | some parsedXml =>
          cases isNode : parsedXml.child? "DATA" <;> simp [IsConclusive, finding, parsed, isNode]

/-- The method returned with the operational status `OPERATIONAL`. -/
def SaysOperational : Except Thrown StatusReport → Prop
  | .ok report => report.operationalStatus = "OPERATIONAL"
  | .error _ => False

section Checks

variable {collate : String → String} {world : World}

/-- The handler throws, whatever it is given. -/
theorem saysOperational_tryCatch_iff (action : Service collate StatusReport)
    (kraDevice : KraDeviceRow) (session : Session collate) :
    SaysOperational (exec (tryCatch action (statusFailed world kraDevice)) session).1 ↔
      SaysOperational (exec action session).1 := by
  have fails : ∀ thrown between,
      ¬ Returns (statusFailed world kraDevice thrown : Service collate StatusReport) between := by
    intro thrown between
    cases thrown with
    | kraApi e => exact not_returns_bind_of_next fun _ _ => not_returns_throw _ _
    | php other => exact not_returns_throw _ _
  rw [exec_tryCatch]
  cases ended : exec action session with
  | mk outcome between =>
      cases outcome with
      | ok report => rfl
      | error thrown =>
          refine iff_of_false ?_ not_false
          cases again : (exec (statusFailed world kraDevice thrown) between).1 with
          | ok report => exact absurd ⟨report, again⟩ (fails thrown between)
          | error other => exact not_false

/-- Once its command is answered, a check says so when it finds it and the save is
done. -/
theorem saysOperational_checkStatus (kraDevice : KraDeviceRow) (xmlPayload : KraXml)
    (session : Session collate) :
    SaysOperational (exec (checkStatus world kraDevice xmlPayload) session).1 ↔
      finding world.platform (KraClient.sendCommand world.platform session.gateway.kraApi ""
          xmlPayload false fun _ => world.transport session.calls.length) = some true ∧
        world.database = none := by
  cases outcome : KraClient.sendCommand world.platform session.gateway.kraApi "" xmlPayload false
      fun _ => world.transport session.calls.length with
  | error thrown =>
      have notFound : finding world.platform (.error thrown) ≠ some true := by
        cases thrown <;> simp [finding]
      rw [exec_checkStatus_of_error world kraDevice outcome]
      exact iff_of_false not_false fun both => notFound both.1
  | ok response =>
      cases found : finding world.platform (.ok response) with
      | none =>
          obtain ⟨thrown, threw⟩ := exec_checkStatus_of_unread world kraDevice outcome found
          rw [threw]
          exact iff_of_false not_false (by simp)
      | some operational =>
          obtain ⟨report, reported, ran⟩ :=
            exec_checkStatus_of_found world kraDevice outcome found
          rw [ran, Option.some.injEq, ← reported]
          unfold saveStatus updateDevice
          cases world.database with
          | none =>
              rw [exec_bind_ok (exec_modify _ _)]
              exact (and_iff_left rfl).symm
          | some message =>
              rw [exec_raise_bind_error]
              simp [SaysOperational]

/-- So does a call of `getDeviceStatus`. -/
theorem saysOperational_iff (kraDevice : KraDeviceRow) (session : Session collate) :
    SaysOperational (exec (getDeviceStatus world kraDevice) session).1 ↔
      finding world.platform (statusOutcome world kraDevice session) = some true ∧
        world.database = none := by
  have unfound : ∀ thrown : Throwable,
      finding world.platform (.error (.php thrown)) ≠ some true := by
    simp [finding]
  rcases getDeviceStatus_cases world kraDevice session with
    ⟨thrown, isOutcome, ran⟩ | ⟨xmlPayload, url, isOutcome, ran⟩
  · rw [ran, isOutcome]
    exact iff_of_false not_false fun both => unfound thrown both.1
  · rw [ran, isOutcome]
    exact (saysOperational_tryCatch_iff _ _ _).trans
      (saysOperational_checkStatus kraDevice xmlPayload (baseUrl.put url session))

/-! ## Verdicts -/

/-- The check leaves its time in the row, and the status `ACTIVATED` exactly if it says
that the device is operational, else `ERROR`. -/
def LeavesVerdict (world : World) (kraDevice : KraDeviceRow) (session : Session collate) : Prop :=
  let check := exec (getDeviceStatus world kraDevice) session
  ∃ row ∈ check.2.tenants.kraDevices, row.id = kraDevice.id ∧
    row.lastStatusCheckAt = some world.now ∧
    (row.status = .ACTIVATED ↔ SaysOperational check.1) ∧
    (¬ SaysOperational check.1 → row.status = .ERROR)

/-- The row that a check leaves. -/
theorem mem_getDeviceStatus_iff {kraDevice row : KraDeviceRow} {session : Session collate}
    (stored : kraDevice ∈ session.tenants.kraDevices) :
    (row ∈ (exec (getDeviceStatus world kraDevice) session).2.tenants.kraDevices ∧
        row.id = kraDevice.id) ↔
      row = checkedRow kraDevice
        (finding world.platform (statusOutcome world kraDevice session)) world.now world.database
        kraDevice := by
  have sameId : ∀ found row, (checkedRow kraDevice found world.now world.database row).id =
      row.id := by
    intro found row
    unfold checkedRow
    split <;> rfl
  rw [kraDevices_getDeviceStatus, checkedRows, List.mem_map]
  constructor
  · rintro ⟨⟨other, isOther, changed⟩, isRow⟩
    by_cases isDevice : other.id = kraDevice.id
    · obtain rfl : other = kraDevice :=
        List.inj_on_of_nodup_map session.tenants.uniqueDeviceId isOther stored isDevice
      rw [if_pos rfl] at changed
      exact changed.symm
    · rw [if_neg isDevice] at changed
      exact absurd (changed ▸ isRow) isDevice
  · intro isRow
    rw [isRow]
    exact ⟨⟨kraDevice, stored, if_pos rfl⟩, sameId _ _⟩

/-- Saved over the row it was loaded from, a check is there whole. -/
theorem savedRow_self (kraDevice : KraDeviceRow) (status : DeviceStatus) (now : DateTime) :
    savedRow kraDevice status now kraDevice =
      { kraDevice with status := status, lastStatusCheckAt := some now } := by
  unfold savedRow
  by_cases sameStatus : kraDevice.status = status
  · by_cases sameTime : kraDevice.lastStatusCheckAt = some now <;> simp [sameStatus, sameTime]
  · by_cases sameTime : kraDevice.lastStatusCheckAt = some now <;> simp [sameStatus, sameTime]

end Checks

/-! ## The till of the first shop -/

def datalessBody : String := "<R><STATUS>P</STATUS></R>"

/-- KRA answers without a `DATA` node. -/
def datalessWorld : World :=
  { Client.offlineWorld with
    platform := KraApi.platformReading
      [(datalessBody, .element "R" "" [.element "STATUS" "P" []])]
    transport := fun _ => .answered ⟨200, datalessBody⟩ }

end TaxGateway.Devices
