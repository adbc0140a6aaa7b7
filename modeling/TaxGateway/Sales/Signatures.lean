import TaxGateway.Sales.Gateway

/-!
Contract: how often the devices sign a receipt, over whole runs of the gateway.

Nothing keeps a repeated request from the device: the unique index is checked
only when the signed receipt is inserted.

Owns:
- that a call signs at most once, for its own key, so that a key is signed at
  most as often as it is requested;
- that a key is recorded at most once, whatever was signed;
- a repeated request that is signed twice.

Does not own: what becomes of the journaling.
-/

namespace TaxGateway.Sales

open TaxGateway.Php
open TaxGateway.Database
open TaxGateway.Http
open TaxGateway.Services
open TaxGateway.Services.KraSalesService
open TaxGateway.Transitions

/-- The key of the receipt a label requests. -/
def Label.requestedKey (collate : String → String) : Label → Option ReceiptKey
  | .request accepted device uuid now =>
      some (Call.key collate ⟨accepted, device, uuid, now, .received⟩)
  | _ => none

section Keys

variable {collate : String → String} {setting : Setting} {system system' : System collate}

/-- A call keeps its key. -/
theorem keys_setPhase {index : Nat} {call : Call} (atIndex : system.calls[index]? = some call)
    (phase : CallPhase) :
    (system.setPhase index call phase).calls.map (Call.key collate) =
      system.calls.map (Call.key collate) :=
  map_set_eq atIndex rfl

/-- The calls are those that were requested, in order. -/
theorem keys_of_step {label : Label} (stepped : system.step setting label = some system') :
    system'.calls.map (Call.key collate) =
      system.calls.map (Call.key collate) ++ (label.requestedKey collate).toList := by
  cases label with
  | request request device uuid now =>
      obtain rfl := Option.some.inj stepped
      simp [Label.requestedKey, Call.key]
  | send index transport signs =>
      obtain ⟨call, atIndex, -, rfl⟩ := step_send stepped
      simpa [Label.requestedKey] using keys_setPhase atIndex (call.send setting transport)
  | insert index database =>
      obtain ⟨call, _, _, atIndex, -, ⟨thrown, rfl⟩ | ⟨transaction, _, -, -, rfl⟩⟩ :=
        step_insert stepped
      · simpa [Label.requestedKey] using keys_setPhase atIndex (.threw thrown)
      · simpa [Label.requestedKey] using keys_setPhase atIndex (.inserted transaction)
  | dispatch index queue =>
      obtain ⟨call, transaction, atIndex, -, ⟨thrown, rfl⟩ | rfl⟩ := step_dispatch stepped
      · simpa [Label.requestedKey] using
          keys_setPhase atIndex (.undispatched transaction thrown)
      · simpa [Label.requestedKey] using keys_setPhase atIndex (.returned transaction)
  | work id label =>
      obtain ⟨_, _, -, -, -, rfl⟩ := step_work stepped
      simp [Label.requestedKey, System.setJournaling]
  | settle id =>
      obtain ⟨-, rfl⟩ := step_settle stepped
      simp [Label.requestedKey]
  | release id =>
      obtain ⟨-, rfl⟩ := step_release stepped
      simp [Label.requestedKey]
  | giveUp id reason =>
      obtain ⟨_, _, -, -, -, rfl⟩ := step_giveUp stepped
      simp [Label.requestedKey]

/-- So the keys of the calls are those of the requests, over a whole run. -/
theorem keys_of_run {labels : List Label}
    (ran : run (System.step setting) system labels = some system') :
    system'.calls.map (Call.key collate) =
      system.calls.map (Call.key collate) ++
        labels.filterMap (Label.requestedKey collate) := by
  induction labels generalizing system with
  | nil =>
      obtain rfl := Option.some.inj ran
      simp
  | cons label rest inductionHypothesis =>
      rw [run_cons] at ran
      obtain ⟨next, stepped, ranRest⟩ := Option.bind_eq_some_iff.mp ran
      rw [inductionHypothesis ranRest, keys_of_step stepped, List.append_assoc]
      cases requested : label.requestedKey collate with
      | none => simp [requested]
      | some key => simp [requested]

end Keys

/-! ## Signatures -/

/-- Every signature is that of a call past its command, and for the call's key;
no call has two. -/
structure SignedOnce {collate : String → String} (system : System collate) : Prop where
  once : (system.signatures.map Prod.fst).Nodup
  ofCall : ∀ index key, (index, key) ∈ system.signatures →
    ∃ call, system.calls[index]? = some call ∧
      call.phase ≠ .received ∧ call.key collate = key

section Signatures

variable {collate : String → String} {setting : Setting} {system system' : System collate}

theorem send_ne_received (setting : Setting) (transport : Transport) (call : Call) :
    call.send setting transport ≠ .received := by
  unfold Call.send
  split <;> exact nofun

/-- The step of a call that signs nothing keeps the signatures in order, if the
call does not return to its start. -/
theorem SignedOnce.setPhase (signed : SignedOnce system) {index : Nat} {call : Call}
    (atIndex : system.calls[index]? = some call) {phase : CallPhase}
    (left : phase ≠ .received) : SignedOnce (system.setPhase index call phase) := by
  refine ⟨signed.once, ?_⟩
  intro other key member
  exact exists_getElem?_set atIndex (fun held => ⟨left, held.2⟩)
    (signed.ofCall other key member)

/-- A call that has not sent its command has no signature yet. -/
theorem SignedOnce.not_mem_of_received (signed : SignedOnce system) {index : Nat}
    {call : Call} (atIndex : system.calls[index]? = some call)
    (received : call.phase = .received) : index ∉ system.signatures.map Prod.fst := by
  intro member
  obtain ⟨⟨_, key⟩, isSigned, rfl⟩ := List.mem_map.mp member
  obtain ⟨holder, atHolder, past, -⟩ := signed.ofCall _ key isSigned
  obtain rfl := Option.some.inj (atIndex.symm.trans atHolder)
  exact past received

theorem signedOnce_step (signed : SignedOnce system) {label : Label}
    (stepped : system.step setting label = some system') : SignedOnce system' := by
  cases label with
  | request request device uuid now =>
      obtain rfl := Option.some.inj stepped
      refine ⟨signed.once, ?_⟩
      intro index key member
      obtain ⟨call, atIndex, held⟩ := signed.ofCall index key member
      obtain ⟨below, -⟩ := List.getElem?_eq_some_iff.mp atIndex
      exact ⟨call, (List.getElem?_append_left below).trans atIndex, held⟩
  | send index transport signs =>
      obtain ⟨call, atIndex, received, rfl⟩ := step_send stepped
      have moved := signed.setPhase atIndex (send_ne_received setting transport call)
      have unsigned := signed.not_mem_of_received atIndex received
      obtain ⟨below, -⟩ := List.getElem?_eq_some_iff.mp atIndex
      split
      next =>
        refine ⟨?_, ?_⟩
        · simpa only [List.map_append, List.map_cons, List.map_nil,
            List.concat_eq_append] using List.Nodup.concat unsigned signed.once
        · intro other key member
          rcases List.mem_append.mp member with earlier | new
          · exact moved.ofCall other key earlier
          · simp only [List.mem_singleton, Prod.mk.injEq] at new
            obtain ⟨rfl, rfl⟩ := new
            exact ⟨_, List.getElem?_set_self below,
              send_ne_received setting transport call, rfl⟩
      next =>
        rw [List.append_nil]
        exact ⟨moved.once, moved.ofCall⟩
  | insert index database =>
      obtain ⟨call, _, _, atIndex, -, ⟨thrown, rfl⟩ | ⟨transaction, _, -, -, rfl⟩⟩ :=
        step_insert stepped
      · exact signed.setPhase atIndex nofun
      · have moved : SignedOnce (system.setPhase index call (.inserted transaction)) :=
          signed.setPhase atIndex nofun
        exact ⟨moved.once, moved.ofCall⟩
  | dispatch index queue =>
      obtain ⟨call, transaction, atIndex, -, ⟨thrown, rfl⟩ | rfl⟩ := step_dispatch stepped
      · exact signed.setPhase atIndex nofun
      · have moved : SignedOnce (system.setPhase index call (.returned transaction)) :=
          signed.setPhase atIndex nofun
        exact ⟨moved.once, moved.ofCall⟩
  | work id label =>
      obtain ⟨_, _, -, -, -, rfl⟩ := step_work stepped
      exact ⟨signed.once, signed.ofCall⟩
  | settle id =>
      obtain ⟨-, rfl⟩ := step_settle stepped
      exact ⟨signed.once, signed.ofCall⟩
  | release id =>
      obtain ⟨-, rfl⟩ := step_release stepped
      exact ⟨signed.once, signed.ofCall⟩
  | giveUp id reason =>
      obtain ⟨_, _, -, -, -, rfl⟩ := step_giveUp stepped
      exact ⟨signed.once, signed.ofCall⟩

/-- Entries at different positions of a list cannot name a value more often than
the list does. -/
theorem count_le_of_positions {α : Type} [DecidableEq α] {entries : List (Nat × α)}
    {values : List α} (once : (entries.map Prod.fst).Nodup)
    (atPosition : ∀ index value, (index, value) ∈ entries → values[index]? = some value)
    (value : α) : (entries.map Prod.snd).count value ≤ values.count value := by
  have nodup : (entries.map Prod.swap).Nodup :=
    (List.Nodup.of_map Prod.fst once).map Prod.swap_injective
  have within : entries.map Prod.swap ⊆ values.zipIdx := by
    intro entry member
    obtain ⟨⟨index, named⟩, isEntry, rfl⟩ := List.mem_map.mp member
    exact List.mk_mem_zipIdx_iff_getElem?.mpr (atPosition index named isEntry)
  have counted := (nodup.subperm within).countP_le fun entry => entry.1 == value
  calc (entries.map Prod.snd).count value
      = (entries.map Prod.swap).countP fun entry => entry.1 == value := by
        simp only [List.count, List.countP_map]
        rfl
    _ ≤ values.zipIdx.countP fun entry => entry.1 == value := counted
    _ = (values.zipIdx.map Prod.fst).count value := by
        rw [List.count, List.countP_map]
        rfl
    _ = values.count value := by rw [List.zipIdx_map_fst]

end Signatures

/-! ## Records -/

/-- The key of each call that has recorded its receipt is in the table, and no
two such calls have the same key. -/
structure RecordedOnce (collate : String → String) (keys : List ReceiptKey)
    (calls : List Call) : Prop where
  stored : ∀ (index : Nat) (call : Call), calls[index]? = some call →
    call.phase.recorded ≠ none → call.key collate ∈ keys
  once : ∀ (first second : Nat) (firstCall secondCall : Call),
    calls[first]? = some firstCall → calls[second]? = some secondCall →
    firstCall.phase.recorded ≠ none → secondCall.phase.recorded ≠ none →
    firstCall.key collate = secondCall.key collate → first = second

section Records

variable {collate : String → String} {setting : Setting} {system system' : System collate}
  {keys : List ReceiptKey} {calls : List Call}

/-- The index entries of the table. -/
def System.storedKeys (system : System collate) : List ReceiptKey :=
  system.transactions.stored.map (Transaction.key collate)

/-- The row read from an answer to a call has the call's key. -/
theorem key_of_readAnswer {platform : Platform} {config : KraConfig} {call : Call}
    {xmlPayload : KraXml} {response : HttpResponse} {transaction : Transaction}
    (read : readAnswer platform config call.sale xmlPayload response = .ok transaction) :
    transaction.key collate = call.key collate := by
  obtain ⟨dataNode, kraTimestamp, rnum, receiptType, transactionType, -, -, number, receipt,
    kind, rfl⟩ := readAnswer_eq_ok read
  have isRequest : call.sale.transactionData = call.request.validated := rfl
  have given : ∀ name ∈ AcceptedRequest.keyNames,
      textAt call.sale.transactionData name = .ok (call.request.text name) :=
    fun _ isKey => textAt_of_accepted isRequest isKey
  rw [given _ (by simp [AcceptedRequest.keyNames])] at number receipt kind
  obtain rfl := Except.ok.inj number
  obtain rfl := Except.ok.inj receipt
  obtain rfl := Except.ok.inj kind
  rfl

/-- A move that records nothing new keeps the records in order. -/
theorem RecordedOnce.set_kept (recorded : RecordedOnce collate keys calls)
    {index : Nat} {call : Call} (atIndex : calls[index]? = some call) (phase : CallPhase)
    (before : phase.recorded ≠ none → call.phase.recorded ≠ none) :
    RecordedOnce collate keys (calls.set index { call with phase := phase }) := by
  have earlier : ∀ (other : Nat) (agent : Call),
      (calls.set index { call with phase := phase })[other]? = some agent →
      agent.phase.recorded ≠ none →
      ∃ previous : Call, calls[other]? = some previous ∧
        previous.phase.recorded ≠ none ∧
        previous.key collate = agent.key collate := by
    intro other agent atOther holds
    rcases getElem?_set_cases atIndex atOther with ⟨rfl, rfl⟩ | ⟨-, there⟩
    · exact ⟨call, atIndex, before holds, rfl⟩
    · exact ⟨agent, there, holds, rfl⟩
  refine ⟨?_, ?_⟩
  · intro other agent atOther holds
    obtain ⟨previous, there, held, same⟩ := earlier other agent atOther holds
    exact same ▸ recorded.stored other previous there held
  · intro first second firstCall secondCall atFirst atSecond firstHolds secondHolds equal
    obtain ⟨firstBefore, firstThere, firstHeld, firstSame⟩ :=
      earlier first firstCall atFirst firstHolds
    obtain ⟨secondBefore, secondThere, secondHeld, secondSame⟩ :=
      earlier second secondCall atSecond secondHolds
    exact recorded.once first second firstBefore secondBefore firstThere secondThere
      firstHeld secondHeld (firstSame.trans (equal.trans secondSame.symm))

/-- A call that records a key the table did not have differs from all that
recorded before it. -/
theorem RecordedOnce.set_new (recorded : RecordedOnce collate keys calls)
    {index : Nat} {call : Call} (atIndex : calls[index]? = some call) (phase : CallPhase)
    (fresh : call.key collate ∉ keys) :
    RecordedOnce collate (keys ++ [call.key collate])
      (calls.set index { call with phase := phase }) := by
  refine ⟨?_, ?_⟩
  · intro other agent atOther holds
    rcases getElem?_set_cases atIndex atOther with ⟨-, rfl⟩ | ⟨-, there⟩
    · exact List.mem_append_right _ (List.mem_singleton.mpr rfl)
    · exact List.mem_append_left _ (recorded.stored other agent there holds)
  · intro first second firstCall secondCall atFirst atSecond firstHolds secondHolds equal
    rcases getElem?_set_cases atIndex atFirst with ⟨rfl, rfl⟩ | ⟨-, firstThere⟩ <;>
      rcases getElem?_set_cases atIndex atSecond with ⟨rfl, rfl⟩ | ⟨-, secondThere⟩
    · rfl
    · have present := recorded.stored second secondCall secondThere secondHolds
      rw [← equal] at present
      exact absurd present fresh
    · have present := recorded.stored first firstCall firstThere firstHolds
      rw [equal] at present
      exact absurd present fresh
    · exact recorded.once first second firstCall secondCall firstThere secondThere
        firstHolds secondHolds equal

theorem RecordedOnce.append (recorded : RecordedOnce collate keys calls)
    {call : Call} (received : call.phase = .received) :
    RecordedOnce collate keys (calls ++ [call]) := by
  have earlier : ∀ (other : Nat) (agent : Call), (calls ++ [call])[other]? = some agent →
      agent.phase.recorded ≠ none → calls[other]? = some agent := by
    intro other agent atOther holds
    rcases getElem?_append_singleton_cases atOther with there | ⟨-, rfl⟩
    · exact there
    · rw [received] at holds
      exact absurd rfl holds
  refine ⟨?_, ?_⟩
  · intro other agent atOther holds
    exact recorded.stored other agent (earlier other agent atOther holds) holds
  · intro first second firstCall secondCall atFirst atSecond firstHolds secondHolds equal
    exact recorded.once first second firstCall secondCall
      (earlier first firstCall atFirst firstHolds)
      (earlier second secondCall atSecond secondHolds) firstHolds secondHolds equal

theorem recordedOnce_step
    (recorded : RecordedOnce collate system.storedKeys system.calls)
    {label : Label} (stepped : system.step setting label = some system') :
    RecordedOnce collate system'.storedKeys system'.calls := by
  cases label with
  | request request device uuid now =>
      obtain rfl := Option.some.inj stepped
      exact recorded.append rfl
  | send index transport signs =>
      obtain ⟨call, atIndex, -, rfl⟩ := step_send stepped
      refine recorded.set_kept atIndex (call.send setting transport) ?_
      intro holds
      unfold Call.send at holds
      split at holds <;> exact absurd rfl holds
  | insert index database =>
      obtain ⟨call, _, _, atIndex, -,
        ⟨thrown, rfl⟩ | ⟨transaction, transactions, read, inserted, rfl⟩⟩ :=
        step_insert stepped
      · exact recorded.set_kept atIndex (.threw thrown) fun holds => absurd rfl holds
      · obtain ⟨⟨-, -, fresh⟩, appended⟩ := TransactionsTable.insert_eq_ok inserted
        have sameKey : transaction.key collate = call.key collate := key_of_readAnswer read
        have keys : transactions.stored.map (Transaction.key collate) =
            system.storedKeys ++ [call.key collate] := by
          rw [appended, List.map_append, List.map_singleton, sameKey]
          rfl
        have isNew : call.key collate ∉ system.storedKeys := by
          simpa [System.storedKeys, TransactionsTable.stored, sameKey] using fresh
        simp only [System.storedKeys, keys]
        exact recorded.set_new atIndex (.inserted transaction) isNew
  | dispatch index queue =>
      obtain ⟨call, transaction, atIndex, phase, ⟨thrown, rfl⟩ | rfl⟩ := step_dispatch stepped
      · exact recorded.set_kept atIndex (.undispatched transaction thrown) fun _ => by
          simp [phase, CallPhase.recorded]
      · exact recorded.set_kept atIndex (.returned transaction) fun _ => by
          simp [phase, CallPhase.recorded]
  | work id label =>
      obtain ⟨_, state, -, -, -, rfl⟩ := step_work stepped
      simp only [System.storedKeys, System.setJournaling,
        TransactionsTable.stored_key_setJournal]
      exact recorded
  | settle id =>
      obtain ⟨-, rfl⟩ := step_settle stepped
      exact recorded
  | release id =>
      obtain ⟨-, rfl⟩ := step_release stepped
      exact recorded
  | giveUp id reason =>
      obtain ⟨_, _, -, -, -, rfl⟩ := step_giveUp stepped
      exact recorded

end Records

/-! ## Runs -/

section Runs

variable {collate : String → String} {setting : Setting} {table : TransactionsTable collate}
  {jobs : List String} {labels : List Label} {reached : System collate}

theorem signedOnce_of_run
    (ran : run (System.step setting) (.idle table jobs) labels = some reached) :
    SignedOnce reached := by
  have atStart : SignedOnce (System.idle table jobs) :=
    ⟨List.nodup_nil, fun index key member => by simp [System.idle] at member⟩
  exact run_invariant (fun _ _ _ held stepped => signedOnce_step held stepped) atStart ran

theorem recordedOnce_of_run
    (ran : run (System.step setting) (.idle table jobs) labels = some reached) :
    RecordedOnce collate reached.storedKeys reached.calls := by
  have atStart : RecordedOnce collate (System.idle table jobs).storedKeys
      (System.idle table jobs).calls :=
    ⟨fun _ _ atIndex => by simp [System.idle] at atIndex,
      fun _ _ _ _ atFirst => by simp [System.idle] at atFirst⟩
  have preserved : ∀ source label target,
      RecordedOnce collate source.storedKeys source.calls →
      System.step setting source label = some target →
      RecordedOnce collate target.storedKeys target.calls :=
    fun _ _ _ held stepped => recordedOnce_step held stepped
  exact run_invariant preserved atStart ran

/-- In every run a call signs at most once and only for its own key, so no key is
signed more often than it is requested. Each key is recorded at most once, by
one row and for one call. -/
theorem signatures_le_requests
    (ran : run (System.step setting) (.idle table jobs) labels = some reached) :
    (reached.signatures.map Prod.fst).Nodup ∧
    (∀ index key, (index, key) ∈ reached.signatures →
      ∃ call, reached.calls[index]? = some call ∧ call.key collate = key) ∧
    (∀ key, (reached.signatures.map Prod.snd).count key ≤
      (labels.filterMap (Label.requestedKey collate)).count key) ∧
    RecordedOnce collate reached.storedKeys reached.calls ∧ reached.storedKeys.Nodup := by
  have signed := signedOnce_of_run ran
  have keys : reached.calls.map (Call.key collate) =
      labels.filterMap (Label.requestedKey collate) := keys_of_run ran
  refine ⟨signed.once, ?_, ?_, recordedOnce_of_run ran,
    reached.transactions.stored_key_nodup⟩
  · intro index key member
    obtain ⟨call, atIndex, -, sameKey⟩ := signed.ofCall index key member
    exact ⟨call, atIndex, sameKey⟩
  · rw [← keys]
    apply count_le_of_positions signed.once
    intro index key member
    obtain ⟨call, atIndex, -, sameKey⟩ := signed.ofCall index key member
    rw [List.getElem?_map, atIndex, ← sameKey]
    rfl

end Runs

/-! ### A repeated request -/

def breadKey : ReceiptKey := ⟨shopDevice.id, "INV-1", "NORMAL", "SALE"⟩

/-- The device signs, but its answer is too late; the client asks again. -/
def repeatedBread : List Label :=
  [breadRequest "1", .send 0 (.failed "timed out") true,
    breadRequest "2", .send 1 (signedAnswer "P" "KRACU1") true, .insert 1 none]

def repeatedRun : Option (System id) :=
  run (System.step shopSetting) (.idle (.empty id) []) repeatedBread

theorem repeatedRun_returns : repeatedRun.isSome = true := by
  decide +kernel

/-- The bound, at the repeated request: it is met with equality. -/
theorem signatures_le_requests_repeatedBread :
    ((repeatedRun.get repeatedRun_returns).signatures.map Prod.snd).count breadKey ≤
      (repeatedBread.filterMap (Label.requestedKey id)).count breadKey :=
  (signatures_le_requests (Option.some_get repeatedRun_returns).symm).2.2.1 breadKey

/-- The device has signed the repeated request twice. -/
theorem repeated_request_signed_twice :
    ¬ ∀ labels reached,
      run (System.step shopSetting) (.idle (.empty id) []) labels = some reached →
      ∀ key, (reached.signatures.map Prod.snd).count key ≤ 1 := by
  intro once
  have signedTwice : repeatedRun.map (fun reached =>
      (reached.signatures.map Prod.snd).count breadKey) = some 2 := by decide +kernel
  obtain ⟨reached, ran, twice⟩ := Option.map_eq_some_iff.mp signedTwice
  have bounded := once repeatedBread reached ran breadKey
  omega

end TaxGateway.Sales
