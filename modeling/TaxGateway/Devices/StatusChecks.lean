import TaxGateway.Access.Permissions
import TaxGateway.Client.Calls
import TaxGateway.Foundations.Transitions

/-!
Contract: status checks of one device that overlap.

Owns:
- what a check makes of KRA's answer, and what it saves: a part of the pair of
  status and check time, chosen by the snapshot it loaded earlier;
- the machine of any number of checks of one device, and that a call of
  `getDeviceStatus` moves the stored row as the machine does;
- the saves after which the stored pair is of one call, and the theorem that the
  pair always is in exactly the runs that make no other save;
- the shortest run that mixes two calls.

Does not own: who may ask for a check, or what the check returns.
-/

namespace TaxGateway.Devices

open TaxGateway.Php
open TaxGateway.Database
open TaxGateway.Effects
open TaxGateway.Services
open TaxGateway.Services.Session
open TaxGateway.Services.KraDeviceService
open TaxGateway.Transitions

/-! ## One check -/

/-- What `getDeviceStatus` learns from the outcome of its command: whether the device
is operational. Of an answer that it cannot read it learns nothing. -/
def finding (platform : Platform) : Except Thrown HttpResponse → Option Bool
  | .error (.kraApi _) => some false
  | .error (.php _) => none
  | .ok response => do
      let parsedXml ← platform.simplexmlLoadString response.body
      let _ ← parsedXml.child? "DATA"
      return parsedXml.childTextOr "STATUS" "UNKNOWN" = "P"

def statusOf (operational : Bool) : DeviceStatus :=
  if operational then .ACTIVATED else .ERROR

@[simp] theorem statusOf_eq_activated_iff {operational : Bool} :
    statusOf operational = .ACTIVATED ↔ operational = true := by
  cases operational <;> simp [statusOf]

/-- The row after `save()` of the model `kraDevice`: each of the two columns is
written only if it differs from what the model was loaded with. -/
def savedRow (kraDevice : KraDeviceRow) (status : DeviceStatus) (now : DateTime)
    (row : KraDeviceRow) : KraDeviceRow :=
  { row with
    status := if kraDevice.status = status then row.status else status
    lastStatusCheckAt :=
      if kraDevice.lastStatusCheckAt = some now then row.lastStatusCheckAt else some now }

/-- The row after a check with the model `kraDevice`. -/
def checkedRow (kraDevice : KraDeviceRow) (found : Option Bool) (now : DateTime)
    (database : Option String) (row : KraDeviceRow) : KraDeviceRow :=
  match found, database with
  | some operational, none => savedRow kraDevice (statusOf operational) now row
  | _, _ => row

/-! ## Overlapping checks -/

/-- A call of `getDeviceStatus`: its model is loaded; KRA has answered; its save is
done; it has thrown without saving. -/
inductive StatusCall where
  | loaded (kraDevice : KraDeviceRow)
  | answered (kraDevice : KraDeviceRow) (operational : Bool)
  | saved (operational : Bool) (checkedAt : DateTime)
  | threw

inductive StatusLabel where
  | load
  | answer (index : Nat) (outcome : Except Thrown HttpResponse)
  | save (index : Nat) (now : DateTime) (database : Option String)

/-- The stored row, the calls so far, and which of them wrote the stored
`last_status_check_at`. -/
structure StatusChecks where
  row : KraDeviceRow
  checkedBy : Option Nat
  calls : List StatusCall

namespace StatusChecks

/-- No call yet. -/
def idle (row : KraDeviceRow) : StatusChecks := ⟨row, none, []⟩

/-- The state after the save of a call with its model and finding. -/
def afterSave (state : StatusChecks) (index : Nat) (now : DateTime) (kraDevice : KraDeviceRow)
    (operational : Bool) : StatusChecks where
  row := savedRow kraDevice (statusOf operational) now state.row
  checkedBy := if kraDevice.lastStatusCheckAt = some now then state.checkedBy else some index
  calls := state.calls.set index (.saved operational now)

variable (platform : Platform)

def step (state : StatusChecks) : StatusLabel → Option StatusChecks
  | .load => some { state with calls := state.calls ++ [.loaded state.row] }
  | .answer index outcome =>
      match state.calls[index]? with
      | some (.loaded kraDevice) =>
          let answered := match finding platform outcome with
            | some operational => .answered kraDevice operational
            | none => .threw
          some { state with calls := state.calls.set index answered }
      | _ => none
  | .save index now database =>
      match state.calls[index]?, database with
      | some (.answered kraDevice operational), none =>
          some (state.afterSave index now kraDevice operational)
      | some (.answered _ _), some _ =>
          some { state with calls := state.calls.set index .threw }
      | _, _ => none

/-- Some call has saved. -/
def HasSaved (state : StatusChecks) : Prop :=
  ∃ (index : Nat) (operational : Bool) (checkedAt : DateTime),
    state.calls[index]? = some (.saved operational checkedAt)

/-- The stored pair is that of one call: the one that wrote the check time found the
device operational exactly if the status is `ACTIVATED`. -/
def OfOneCall (state : StatusChecks) : Prop :=
  ∃ index operational checkedAt, state.checkedBy = some index ∧
    state.calls[index]? = some (.saved operational checkedAt) ∧
    (state.row.status = .ACTIVATED ↔ operational = true)

/-- What a save leaves unwritten is what it would have written: if it leaves out the
status, the stored one tells the same; if it leaves out the check time, the call that
wrote the stored one found the same, or this save leaves out the status as well. -/
def SavesWhole (state : StatusChecks) (index : Nat) (now : DateTime) : Prop :=
  ∀ kraDevice operational, state.calls[index]? = some (.answered kraDevice operational) →
    if kraDevice.lastStatusCheckAt = some now then
      ∃ earlier found checkedAt, state.checkedBy = some earlier ∧
        state.calls[earlier]? = some (.saved found checkedAt) ∧
        (kraDevice.status = statusOf operational ∨ found = operational)
    else
      kraDevice.status = statusOf operational →
        (state.row.status = .ACTIVATED ↔ operational = true)

/-! ## What a step can do -/

/-- Nothing but calls that have not saved is different. -/
structure SameSaves (state state' : StatusChecks) : Prop where
  sameRow : state'.row = state.row
  sameWriter : state'.checkedBy = state.checkedBy
  sameSaves : ∀ (index : Nat) (operational : Bool) (checkedAt : DateTime),
    state'.calls[index]? = some (.saved operational checkedAt) ↔
      state.calls[index]? = some (.saved operational checkedAt)

section Steps

variable {platform : Platform} {state state' : StatusChecks} {index : Nat}

/-- A call that has not saved moves on without saving. -/
theorem sameSaves_set {old new : StatusCall} (atIndex : state.calls[index]? = some old)
    (notSaved : ∀ operational checkedAt, old ≠ .saved operational checkedAt)
    (notSaving : ∀ operational checkedAt, new ≠ .saved operational checkedAt) :
    SameSaves state { state with calls := state.calls.set index new } := by
  refine ⟨rfl, rfl, ?_⟩
  intro other operational checkedAt
  by_cases same : index = other
  · subst same
    obtain ⟨below, -⟩ := List.getElem?_eq_some_iff.mp atIndex
    simp [List.getElem?_set_self below, atIndex, notSaved, notSaving]
  · rw [List.getElem?_set_ne same]

/-- A step saves the finding of a call, or nothing. -/
theorem step_cases {label : StatusLabel} (stepped : state.step platform label = some state') :
    (∃ index now kraDevice operational, label = .save index now none ∧
        state.calls[index]? = some (.answered kraDevice operational) ∧
        state' = state.afterSave index now kraDevice operational) ∨
      (∀ index now, label ≠ .save index now none) ∧ SameSaves state state' := by
  cases label with
  | load =>
      obtain rfl := Option.some.inj stepped
      refine .inr ⟨by simp, rfl, rfl, ?_⟩
      intro index operational checkedAt
      constructor
      · intro isSaved
        rcases getElem?_append_singleton_cases isSaved with earlier | ⟨-, new⟩
        · exact earlier
        · cases new
      · intro earlier
        obtain ⟨below, -⟩ := List.getElem?_eq_some_iff.mp earlier
        exact (List.getElem?_append_left below).trans earlier
  | answer index outcome =>
      simp only [step] at stepped
      split at stepped
      next kraDevice isLoaded =>
        obtain rfl := Option.some.inj stepped
        refine .inr ⟨by simp, sameSaves_set isLoaded (by simp) ?_⟩
        intro operational checkedAt
        split <;> simp
      next => contradiction
  | save index now database =>
      simp only [step] at stepped
      split at stepped
      next kraDevice operational isAnswered =>
        exact .inl ⟨index, now, kraDevice, operational, rfl, isAnswered,
          (Option.some.inj stepped).symm⟩
      next kraDevice operational message isAnswered =>
        obtain rfl := Option.some.inj stepped
        exact .inr ⟨by simp, sameSaves_set isAnswered (by simp) (by simp)⟩
      next => contradiction

end Steps

/-! ## One call's pair -/

/-- The call that wrote the stored check time has saved, and that is the stored
time. -/
def KnowsWriter (state : StatusChecks) : Prop :=
  ∀ index, state.checkedBy = some index → ∃ operational checkedAt,
    state.calls[index]? = some (.saved operational checkedAt) ∧
      state.row.lastStatusCheckAt = some checkedAt

section Pairs

variable {platform : Platform} {state state' : StatusChecks} {index : Nat} {now : DateTime}
  {kraDevice : KraDeviceRow} {operational : Bool}

theorem SameSaves.hasSaved_iff (same : SameSaves state state') :
    state'.HasSaved ↔ state.HasSaved := by
  simp only [HasSaved, same.sameSaves]

theorem SameSaves.ofOneCall_iff (same : SameSaves state state') :
    state'.OfOneCall ↔ state.OfOneCall := by
  simp only [OfOneCall, same.sameRow, same.sameWriter, same.sameSaves]

theorem SameSaves.knowsWriter_iff (same : SameSaves state state') :
    state'.KnowsWriter ↔ state.KnowsWriter := by
  simp only [KnowsWriter, same.sameRow, same.sameWriter, same.sameSaves]

/-- The saving call has saved. -/
theorem afterSave_self (isAnswered : state.calls[index]? = some (.answered kraDevice operational)) :
    (state.afterSave index now kraDevice operational).calls[index]? =
      some (.saved operational now) := by
  obtain ⟨below, -⟩ := List.getElem?_eq_some_iff.mp isAnswered
  exact List.getElem?_set_self below

/-- What had saved before has saved still. -/
theorem afterSave_of_saved
    (isAnswered : state.calls[index]? = some (.answered kraDevice operational)) {other : Nat}
    {found : Bool} {checkedAt : DateTime}
    (isSaved : state.calls[other]? = some (.saved found checkedAt)) :
    (state.afterSave index now kraDevice operational).calls[other]? =
      some (.saved found checkedAt) := by
  have different : index ≠ other := by
    intro same
    rw [same, isSaved] at isAnswered
    cases isAnswered
  exact (List.getElem?_set_ne different).trans isSaved

theorem knowsWriter_step {label : StatusLabel} (knows : state.KnowsWriter)
    (stepped : state.step platform label = some state') : state'.KnowsWriter := by
  rcases step_cases stepped with ⟨index, now, kraDevice, operational, -, isAnswered, rfl⟩ |
    ⟨-, same⟩
  · intro writer isWriter
    by_cases leavesTime : kraDevice.lastStatusCheckAt = some now
    · rw [afterSave, if_pos leavesTime] at isWriter
      obtain ⟨found, checkedAt, isSaved, isTime⟩ := knows writer isWriter
      exact ⟨found, checkedAt, afterSave_of_saved isAnswered isSaved,
        by simpa [afterSave, savedRow, leavesTime] using isTime⟩
    · rw [afterSave, if_neg leavesTime] at isWriter
      obtain rfl := Option.some.inj isWriter
      exact ⟨operational, now, afterSave_self isAnswered, by simp [afterSave, savedRow, leavesTime]⟩
  · exact same.knowsWriter_iff.mpr knows

/-- A save that writes the check time leaves the pair of its own call exactly if it
writes the status or need not. -/
theorem ofOneCall_of_writesTime (leavesNot : kraDevice.lastStatusCheckAt ≠ some now)
    (isAnswered : state.calls[index]? = some (.answered kraDevice operational)) :
    (state.afterSave index now kraDevice operational).OfOneCall ↔
      (kraDevice.status = statusOf operational →
        (state.row.status = .ACTIVATED ↔ operational = true)) := by
  have writer : (state.afterSave index now kraDevice operational).checkedBy = some index :=
    if_neg leavesNot
  have self : (state.afterSave index now kraDevice operational).calls[index]? =
      some (.saved operational now) := afterSave_self isAnswered
  have pair : (state.afterSave index now kraDevice operational).OfOneCall ↔
      ((state.afterSave index now kraDevice operational).row.status = .ACTIVATED ↔
        operational = true) := by
    constructor
    · rintro ⟨other, found, checkedAt, isWriter, isSaved, told⟩
      obtain rfl := Option.some.inj (writer.symm.trans isWriter)
      obtain ⟨rfl, -⟩ := StatusCall.saved.inj (Option.some.inj (self.symm.trans isSaved))
      exact told
    · intro told
      exact ⟨index, operational, now, writer, self, told⟩
  rw [pair]
  by_cases leavesStatus : kraDevice.status = statusOf operational
  · simp [afterSave, savedRow, leavesStatus]
  · simp [afterSave, savedRow, leavesStatus]

/-- A save that leaves out the check time keeps the pair of an earlier call exactly if
that call found the same, or nothing is written. -/
theorem ofOneCall_of_leavesTime (leavesTime : kraDevice.lastStatusCheckAt = some now)
    (knows : state.KnowsWriter) (held : state.HasSaved → state.OfOneCall)
    (isAnswered : state.calls[index]? = some (.answered kraDevice operational)) :
    (state.afterSave index now kraDevice operational).OfOneCall ↔
      ∃ earlier found checkedAt, state.checkedBy = some earlier ∧
        state.calls[earlier]? = some (.saved found checkedAt) ∧
        (kraDevice.status = statusOf operational ∨ found = operational) := by
  have writer : (state.afterSave index now kraDevice operational).checkedBy = state.checkedBy :=
    if_pos leavesTime
  constructor
  · rintro ⟨earlier, found, checkedAt, isWriter, isSaved, told⟩
    rw [writer] at isWriter
    obtain ⟨found', checkedAt', wasSaved, -⟩ := knows earlier isWriter
    have kept : (state.afterSave index now kraDevice operational).calls[earlier]? =
        some (.saved found' checkedAt') := afterSave_of_saved isAnswered wasSaved
    obtain ⟨rfl, rfl⟩ := StatusCall.saved.inj (Option.some.inj (kept.symm.trans isSaved))
    refine ⟨earlier, found', checkedAt', isWriter, wasSaved, ?_⟩
    by_cases leavesStatus : kraDevice.status = statusOf operational
    · exact .inl leavesStatus
    · simp only [afterSave, savedRow, leavesStatus, if_false, statusOf_eq_activated_iff] at told
      exact .inr (Bool.eq_iff_iff.mpr told.symm)
  · rintro ⟨earlier, found, checkedAt, isWriter, isSaved, agrees⟩
    refine ⟨earlier, found, checkedAt, writer.trans isWriter,
      afterSave_of_saved isAnswered isSaved, ?_⟩
    by_cases leavesStatus : kraDevice.status = statusOf operational
    · obtain ⟨other, found', checkedAt', isOther, otherSaved, told⟩ :=
        held ⟨earlier, found, checkedAt, isSaved⟩
      obtain rfl := Option.some.inj (isWriter.symm.trans isOther)
      obtain ⟨rfl, -⟩ := StatusCall.saved.inj (Option.some.inj (isSaved.symm.trans otherSaved))
      simpa [afterSave, savedRow, leavesStatus] using told
    · have same : found = operational := agrees.resolve_left leavesStatus
      simp [afterSave, savedRow, leavesStatus, same]

end Pairs

/-- The save of a call whose model is as the row is stored, in a later second than the
last check: the pair is its own. -/
theorem savesWhole_of_current {state : StatusChecks} {index : Nat} {now : DateTime}
    (current : ∀ kraDevice operational,
      state.calls[index]? = some (.answered kraDevice operational) →
        kraDevice.status = state.row.status ∧ kraDevice.lastStatusCheckAt ≠ some now) :
    state.SavesWhole index now := by
  intro kraDevice operational isAnswered
  obtain ⟨sameStatus, later⟩ := current kraDevice operational isAnswered
  rw [if_neg later, ← sameStatus]
  intro leavesStatus
  rw [leavesStatus, statusOf_eq_activated_iff]

/-- After every save of a run the stored pair is of one call exactly if every save of
the run leaves out only what it would have left the same. -/
theorem pair_of_one_call_iff (row : KraDeviceRow) (labels : List StatusLabel) :
    (∀ reached, Reaches (step platform) (idle row) labels reached →
        reached.HasSaved → reached.OfOneCall) ↔
      ∀ source index now target,
        Takes (step platform) (idle row) labels source (.save index now none) target →
        source.SavesWhole index now := by
  have knowsWriter : ∀ reached, Reaches (step platform) (idle row) labels reached →
      reached.KnowsWriter := by
    apply reaches_induction
    · intro index isWriter
      cases isWriter
    · rintro source label target ⟨-, -, -, stepped⟩ knows
      exact knowsWriter_step knows stepped
  have exactly : (∀ reached, Reaches (step platform) (idle row) labels reached →
        reached.KnowsWriter ∧ (reached.HasSaved → reached.OfOneCall)) ↔
      ∀ source label target, Takes (step platform) (idle row) labels source label target →
        ∀ index now, label = .save index now none → source.SavesWhole index now := by
    apply forall_reaches_iff_forall_takes
    · constructor
      · intro index isWriter
        cases isWriter
      · rintro ⟨index, operational, checkedAt, isSaved⟩
        cases isSaved
    · rintro source label target ⟨knows, held⟩ stepped
      have knows' := knowsWriter_step knows stepped
      rcases step_cases stepped with ⟨index, now, kraDevice, operational, rfl, isAnswered, rfl⟩ |
        ⟨notSaving, same⟩
      · have saves : source.SavesWhole index now ↔
            (source.afterSave index now kraDevice operational).OfOneCall := by
          by_cases leavesTime : kraDevice.lastStatusCheckAt = some now
          · rw [ofOneCall_of_leavesTime leavesTime knows held isAnswered]
            simp [SavesWhole, isAnswered, leavesTime]
          · rw [ofOneCall_of_writesTime leavesTime isAnswered]
            simp [SavesWhole, isAnswered, leavesTime]
        have hasSaved : (source.afterSave index now kraDevice operational).HasSaved :=
          ⟨index, operational, now, afterSave_self isAnswered⟩
        simp [knows', hasSaved, saves]
      · simp only [knows', same.hasSaved_iff, same.ofOneCall_iff, true_and]
        constructor
        · intro _ index now isSave
          exact absurd isSave (notSaving index now)
        · intro _
          exact held
  constructor
  · intro held source index now target takes
    refine exactly.mp (fun reached reaches => ⟨knowsWriter reached reaches, held reached reaches⟩)
      source _ target takes index now rfl
  · intro whole reached reaches
    refine (exactly.mpr ?_ reached reaches).2
    rintro source label target takes index now rfl
    exact whole source index now target takes

end StatusChecks

/-! ## The code's check -/

/-- The outcome of the command of a status check, which the pin or the base URL may
prevent. -/
def statusOutcome {collate : String → String} (world : World) (kraDevice : KraDeviceRow)
    (session : Session collate) : Except Thrown HttpResponse := do
  let pin ← (session.tenants.kraDevice kraDevice).pin.mapError .php
  let url ← (statusBaseUrl world kraDevice session).mapError .php
  KraClient.sendCommand world.platform { session.gateway.kraApi with baseUrl := url } ""
    ⟨pin, "STATUS", []⟩ false fun _ => world.transport session.calls.length

section Code

variable {collate : String → String} (world : World)

/-- The table after a check with the model `kraDevice`. -/
def checkedRows (kraDevice : KraDeviceRow) (found : Option Bool) (session : Session collate) :
    List KraDeviceRow :=
  session.tenants.kraDevices.map fun row =>
    if row.id = kraDevice.id then checkedRow kraDevice found world.now world.database row else row

theorem checkedRows_none (kraDevice : KraDeviceRow) (session : Session collate) :
    checkedRows world kraDevice none session = session.tenants.kraDevices := by
  simp [checkedRows, checkedRow]

/-- A save is done, or the database refuses it. -/
theorem exec_saveStatus (kraDevice : KraDeviceRow) (operational : Bool)
    (session : Session collate) :
    ∃ ended saved, exec (saveStatus world kraDevice (statusOf operational)) session =
        (ended, saved) ∧
      saved.tenants.kraDevices = checkedRows world kraDevice (some operational) session ∧
      ∀ e, ended ≠ .error (.kraApi e) := by
  unfold saveStatus updateDevice checkedRows checkedRow
  cases world.database with
  | none => exact ⟨.ok (), _, rfl, rfl, by simp⟩
  | some message => exact ⟨.error (.php (.exception message)), session, rfl, by simp, by simp⟩

/-- The handler of `getDeviceStatus`. -/
def statusFailed (kraDevice : KraDeviceRow) : Thrown → Service collate StatusReport
  | .kraApi e => do
      saveStatus world kraDevice .ERROR
      throw (.kraApi e)
  | .php other => throw (.php other)

/-- The session behind the command of a check. -/
def askedSession (xmlPayload : KraXml) (session : Session collate) : Session collate :=
  { session with
    calls := session.calls ++ [⟨session.gateway.kraApi.baseUrl, "", .xml xmlPayload, false⟩] }

theorem exec_sendCommand_status (xmlPayload : KraXml) (session : Session collate) :
    exec (Session.sendCommand world "" xmlPayload false) session =
      (KraClient.sendCommand world.platform session.gateway.kraApi "" xmlPayload false
        fun _ => world.transport session.calls.length, askedSession xmlPayload session) :=
  exec_transmit _ _ _ _ _ session

section Answers

variable (kraDevice : KraDeviceRow) {xmlPayload : KraXml} {session : Session collate}
  {response : HttpResponse}

theorem exec_checkStatus_of_error {thrown : Thrown}
    (failed : KraClient.sendCommand world.platform session.gateway.kraApi "" xmlPayload false
      (fun _ => world.transport session.calls.length) = .error thrown) :
    exec (checkStatus world kraDevice xmlPayload) session =
      (.error thrown, askedSession xmlPayload session) := by
  have sent := exec_sendCommand_status world xmlPayload session
  rw [failed] at sent
  exact exec_bind_error sent

/-- An answer in which nothing is found ends the check with an exception of PHP. -/
theorem exec_checkStatus_of_unread
    (answered : KraClient.sendCommand world.platform session.gateway.kraApi "" xmlPayload false
      (fun _ => world.transport session.calls.length) = .ok response)
    (unread : finding world.platform (.ok response) = none) :
    ∃ thrown, exec (checkStatus world kraDevice xmlPayload) session =
      (.error (.php thrown), askedSession xmlPayload session) := by
  have sent := exec_sendCommand_status world xmlPayload session
  rw [answered] at sent
  rw [checkStatus, exec_bind_ok sent, parseXml]
  cases parsed : world.platform.simplexmlLoadString response.body with
  | none => exact ⟨_, rfl⟩
  | some parsedXml =>
      cases isNode : parsedXml.child? "DATA" with
      | none =>
          simp only [pure_bind, isNode]
          exact ⟨_, rfl⟩
      | some dataNode => simp [finding, parsed, isNode] at unread

/-- What is found in an answer is saved and reported. -/
theorem exec_checkStatus_of_found {operational : Bool}
    (answered : KraClient.sendCommand world.platform session.gateway.kraApi "" xmlPayload false
      (fun _ => world.transport session.calls.length) = .ok response)
    (found : finding world.platform (.ok response) = some operational) :
    ∃ report, (report.operationalStatus = "OPERATIONAL" ↔ operational = true) ∧
      exec (checkStatus world kraDevice xmlPayload) session =
        exec (do
          saveStatus world kraDevice (statusOf operational)
          return report) (askedSession xmlPayload session) := by
  have sent := exec_sendCommand_status world xmlPayload session
  rw [answered] at sent
  rw [checkStatus, exec_bind_ok sent, parseXml]
  cases parsed : world.platform.simplexmlLoadString response.body with
  | none => simp [finding, parsed] at found
  | some parsedXml =>
      cases isNode : parsedXml.child? "DATA" with
      | none => simp [finding, parsed, isNode] at found
      | some dataNode =>
          have isP : decide (parsedXml.childTextOr "STATUS" "UNKNOWN" = "P") = operational := by
            simpa [finding, parsed, isNode] using found
          have reported : (statusReport parsedXml dataNode).operationalStatus = "OPERATIONAL" ↔
              operational = true := by
            rw [← isP]
            simp [statusReport]
          have written : (if (statusReport parsedXml dataNode).operationalStatus = "OPERATIONAL"
              then DeviceStatus.ACTIVATED else .ERROR) = statusOf operational := by
            simp only [reported, statusOf]
          refine ⟨statusReport parsedXml dataNode, reported, ?_⟩
          simp only [pure_bind, isNode, written]

end Answers

/-- What a check does to the table once its base URL is in effect. -/
theorem kraDevices_checkStatus (kraDevice : KraDeviceRow) (xmlPayload : KraXml)
    (session : Session collate) :
    (exec (tryCatch (checkStatus world kraDevice xmlPayload) (statusFailed world kraDevice))
        session).2.tenants.kraDevices =
      checkedRows world kraDevice
        (finding world.platform (KraClient.sendCommand world.platform session.gateway.kraApi ""
          xmlPayload false fun _ => world.transport session.calls.length)) session := by
  rw [exec_tryCatch]
  cases outcome : KraClient.sendCommand world.platform session.gateway.kraApi "" xmlPayload false
      fun _ => world.transport session.calls.length with
  | error thrown =>
      rw [exec_checkStatus_of_error world kraDevice outcome]
      cases thrown with
      | php other => exact (checkedRows_none world kraDevice session).symm
      | kraApi e =>
          obtain ⟨ended, saved, saves, rows, -⟩ :=
            exec_saveStatus world kraDevice false (askedSession xmlPayload session)
          have failed : (exec (statusFailed world kraDevice (.kraApi e))
              (askedSession xmlPayload session)).2 = saved := by
            cases ended with
            | ok value => exact congrArg Prod.snd (exec_bind_ok saves)
            | error thrown => exact congrArg Prod.snd (exec_bind_error saves)
          exact (congrArg (fun after => after.tenants.kraDevices) failed).trans rows
  | ok response =>
      cases found : finding world.platform (.ok response) with
      | none =>
          obtain ⟨thrown, threw⟩ := exec_checkStatus_of_unread world kraDevice outcome found
          rw [threw]
          exact (checkedRows_none world kraDevice session).symm
      | some operational =>
          obtain ⟨report, -, ran⟩ := exec_checkStatus_of_found world kraDevice outcome found
          obtain ⟨ended, saved, saves, rows, notKra⟩ :=
            exec_saveStatus world kraDevice operational (askedSession xmlPayload session)
          rw [ran]
          cases ended with
          | ok value =>
              rw [exec_bind_ok saves]
              exact rows
          | error thrown =>
              rw [exec_bind_error saves]
              cases thrown with
              | kraApi e => exact absurd rfl (notKra e)
              | php other => exact rows

/-- A call of `getDeviceStatus` throws before its command, or checks with its base URL in
effect and puts back the one before. -/
theorem getDeviceStatus_cases (kraDevice : KraDeviceRow) (session : Session collate) :
    (∃ thrown, statusOutcome world kraDevice session = .error (.php thrown) ∧
      exec (getDeviceStatus world kraDevice) session = (.error (.php thrown), session)) ∨
    ∃ xmlPayload url,
      statusOutcome world kraDevice session =
        KraClient.sendCommand world.platform { session.gateway.kraApi with baseUrl := url } ""
          xmlPayload false (fun _ => world.transport session.calls.length) ∧
      exec (getDeviceStatus world kraDevice) session =
        let check : Service collate StatusReport :=
          tryCatch (checkStatus world kraDevice xmlPayload) (statusFailed world kraDevice)
        ((exec check (baseUrl.put url session)).1,
          baseUrl.put (baseUrl.get session) (exec check (baseUrl.put url session)).2) := by
  rw [getDeviceStatus, exec_bind_ok (exec_get session), statusOutcome]
  dsimp only
  cases (session.tenants.kraDevice kraDevice).pin with
  | error thrown => exact .inl ⟨thrown, rfl, rfl⟩
  | ok pin =>
      have noData : buildKraXml pin "STATUS" [] = .ok ⟨pin, "STATUS", []⟩ := rfl
      rw [exec_raise_bind_ok, noData, exec_raise_bind_ok]
      unfold statusBaseUrl switchIf
      by_cases isVscu : kraDevice.deviceType = "VSCU"
      · simp only [isVscu, decide_true, if_true]
        cases KraSalesService.targetBaseUrl world.config (session.tenants.kraDevice kraDevice) with
        | error thrown => exact .inl ⟨thrown, rfl, rfl⟩
        | ok url =>
            rw [Cell.exec_restoring_ok (exec_setBaseUrl_ok url session)]
            exact .inr ⟨⟨pin, "STATUS", []⟩, url, rfl, rfl⟩
      · -- Nothing is switched: the base URL in effect is the one before.
        simp only [isVscu, decide_false, Bool.false_eq_true, if_false]
        rw [Cell.exec_restoring_ok (exec_pure PUnit.unit session)]
        exact .inr ⟨⟨pin, "STATUS", []⟩, baseUrl.get session, rfl, rfl⟩

/-- A call of `getDeviceStatus` does to the table what the outcome of its command, its
model and its time make of the device's row, and nothing else. -/
theorem kraDevices_getDeviceStatus (kraDevice : KraDeviceRow) (session : Session collate) :
    (exec (getDeviceStatus world kraDevice) session).2.tenants.kraDevices =
      checkedRows world kraDevice
        (finding world.platform (statusOutcome world kraDevice session)) session := by
  rcases getDeviceStatus_cases world kraDevice session with
    ⟨thrown, isOutcome, ran⟩ | ⟨xmlPayload, url, isOutcome, ran⟩
  · rw [ran, isOutcome]
    exact (checkedRows_none world kraDevice session).symm
  · rw [ran, isOutcome]
    exact kraDevices_checkStatus world kraDevice xmlPayload (baseUrl.put url session)

/-- What the machine does for one call once its model is loaded. -/
def checkLabels (index : Nat) (kraDevice : KraDeviceRow) (session : Session collate) :
    List StatusLabel :=
  let outcome := statusOutcome world kraDevice session
  .answer index outcome ::
    (finding world.platform outcome).toList.map fun _ => .save index world.now world.database

theorem run_checkLabels {state : StatusChecks} {index : Nat} {kraDevice : KraDeviceRow}
    (isLoaded : state.calls[index]? = some (.loaded kraDevice)) (session : Session collate) :
    ∃ final, run (StatusChecks.step world.platform) state
        (checkLabels world index kraDevice session) = some final ∧
      final.row = checkedRow kraDevice
        (finding world.platform (statusOutcome world kraDevice session)) world.now world.database
        state.row := by
  obtain ⟨below, -⟩ := List.getElem?_eq_some_iff.mp isLoaded
  cases found : finding world.platform (statusOutcome world kraDevice session) with
  | none =>
      refine ⟨{ state with calls := state.calls.set index .threw }, ?_, rfl⟩
      simp [checkLabels, run_cons, StatusChecks.step, isLoaded, found]
  | some operational =>
      cases database : world.database with
      | none =>
          let answered : StatusChecks :=
            { state with calls := state.calls.set index (.answered kraDevice operational) }
          refine ⟨answered.afterSave index world.now kraDevice operational, ?_, rfl⟩
          simp [checkLabels, run_cons, StatusChecks.step, isLoaded, found, database, answered,
            List.getElem?_set_self below]
      | some message =>
          refine ⟨{ state with calls := state.calls.set index .threw }, ?_, rfl⟩
          simp [checkLabels, run_cons, StatusChecks.step, isLoaded, found, database,
            List.getElem?_set_self below]

/-- The machine follows the code: a call of `getDeviceStatus` that loaded its model at
any earlier time leaves the stored row as the machine does. -/
theorem getDeviceStatus_follows {state : StatusChecks} {index : Nat} {kraDevice : KraDeviceRow}
    (isLoaded : state.calls[index]? = some (.loaded kraDevice)) {session : Session collate}
    (isStored : state.row ∈ session.tenants.kraDevices) (sameDevice : state.row.id = kraDevice.id) :
    ∃ final, run (StatusChecks.step world.platform) state
        (checkLabels world index kraDevice session) = some final ∧
      final.row ∈ (exec (getDeviceStatus world kraDevice) session).2.tenants.kraDevices := by
  obtain ⟨final, ran, row⟩ := run_checkLabels world isLoaded session
  refine ⟨final, ran, ?_⟩
  rw [kraDevices_getDeviceStatus, checkedRows]
  apply List.mem_map.mpr
  exact ⟨state.row, isStored, by rw [if_pos sameDevice, row]⟩

end Code

/-! ## Two checks that mix -/

def operationalBody : String := "<R><STATUS>P</STATUS><DATA></DATA></R>"

def statusPlatform : Platform :=
  KraApi.platformReading
    [(operationalBody, .element "R" "" [.element "STATUS" "P" [], .element "DATA" "" []])]

/-- Both checks load the row; KRA answers the first with an error and the second that
the device is operational; then both save. -/
def mixedChecks : List StatusLabel :=
  [.load, .load, .answer 0 (.error (.kraApi (KraApi.generalError "timed out" none))),
    .answer 1 (.ok ⟨200, operationalBody⟩), .save 0 ⟨2025, 7, 3, 13, 8, 10⟩ none,
    .save 1 ⟨2025, 7, 3, 13, 8, 11⟩ none]

/-- The row ends in `ERROR`, with the check time of the call that found the device
operational. -/
theorem mixedChecks_mix :
    ¬ ∀ reached,
      Reaches (StatusChecks.step statusPlatform) (.idle Access.shopTill) mixedChecks reached →
      reached.HasSaved → reached.OfOneCall := by
  intro held
  let mixed : StatusChecks :=
    { row := { Access.shopTill with
        status := .ERROR
        lastStatusCheckAt := some ⟨2025, 7, 3, 13, 8, 11⟩ }
      checkedBy := some 1
      calls := [.saved false ⟨2025, 7, 3, 13, 8, 10⟩, .saved true ⟨2025, 7, 3, 13, 8, 11⟩] }
  have ran : run (StatusChecks.step statusPlatform) (.idle Access.shopTill) mixedChecks =
      some mixed := by rfl
  obtain ⟨index, operational, checkedAt, isWriter, isSaved, told⟩ :=
    held mixed ⟨mixedChecks, List.prefix_refl _, ran⟩ ⟨0, false, _, rfl⟩
  obtain rfl := Option.some.inj isWriter
  obtain ⟨rfl, -⟩ := StatusCall.saved.inj (Option.some.inj isSaved)
  exact absurd (told.mpr rfl) (by decide)

end TaxGateway.Devices
