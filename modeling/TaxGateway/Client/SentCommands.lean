import TaxGateway.Devices.ActivationRecovery
import TaxGateway.Http.ServiceRequests

/-!
Contract: the commands that `registerItem` and `sendPurchase` send for the data of an
accepted request.

Owns:
- when a device has a base URL;
- commands handed to the client one behind the other until one fails: how many are
  sent, and what the whole ends with;
- the registration of an item: the accepted requests for which it sends its command;
- the purchase: its header, then a command for each item, in order.

Does not own: what KRA answers.
-/

namespace TaxGateway.Client

open TaxGateway.Php
open TaxGateway.Validation
open TaxGateway.Database
open TaxGateway.Effects
open TaxGateway.Http
open TaxGateway.Services
open TaxGateway.Services.Payloads
open TaxGateway.Services.Session

/-! ## Devices -/

/-- The configuration of a VSCU may hold a JAR URL, but no array in its place. -/
def HasBaseUrl (kraDevice : KraDevice) : Prop :=
  kraDevice.deviceType = "VSCU" →
    ∀ entries, kraDevice.config.index "vscu_jar_url" ≠ some (.arr entries)

theorem targetBaseUrl_returns_iff {world : World} {kraDevice : KraDevice} :
    (∃ url, KraSalesService.targetBaseUrl world.config kraDevice = .ok url) ↔
      HasBaseUrl kraDevice := by
  unfold KraSalesService.targetBaseUrl HasBaseUrl
  by_cases isVscu : kraDevice.deviceType = "VSCU"
  · simp only [isVscu, if_true, true_implies]
    cases given : kraDevice.config.index "vscu_jar_url" with
    | none => simp [Value.coalesce, given, Value.toText]
    | some value => cases value <;> simp [Value.coalesce, given, Value.toText]
  · simp [isVscu]

/-- A stored device has a PIN. -/
theorem exists_pin {tenants : Tenants} {row : KraDeviceRow} (stored : row ∈ tenants.kraDevices) :
    ∃ pin, (tenants.kraDevice row).pin = .ok pin := by
  obtain ⟨owner, owns⟩ := Tenants.exists_owner stored
  exact ⟨owner.pin, by rw [KraDevice.pin, owns.pin]⟩

/-! ## One command behind the other -/

section Plans

variable {collate : String → String} (world : World)

/-- What becomes of a command, sent to an endpoint as the nth of the session. -/
def outcome (kraApi : KraApi) (n : Nat) (command : String × KraXml) :
    Except Thrown HttpResponse :=
  KraClient.sendCommand world.platform kraApi command.1 command.2 false
    fun _ => world.transport n

/-- A command as the session notes it. -/
def callTo (url : String) (command : String × KraXml) : Call :=
  ⟨url, command.1, .xml command.2, false⟩

/-- A command is sent whatever becomes of it. -/
theorem exec_sendCommand (command : String × KraXml) (session : Session collate) :
    exec (sendCommand world command.1 command.2 false) session =
      (outcome world session.gateway.kraApi session.calls.length command,
        { session with
          calls := session.calls ++ [callTo (baseUrl.get session) command] }) :=
  exec_transmit _ _ _ _ _ _

/-- Send a command, whatever is answered. -/
def submit (command : String × KraXml) : Service collate PUnit := do
  let _ ← sendCommand world command.1 command.2 false

/-- The first `sent` commands of a plan were sent, and no command behind one that
failed. The end is normal if all were sent and accepted, else the failure of the last. -/
structure Submitted (kraApi : KraApi) (n : Nat) (plan : List (String × KraXml)) (sent : Nat)
    (result : Except Thrown PUnit) : Prop where
  isPrefix : sent ≤ plan.length
  stopsAtFailure : ∀ k command, k + 1 < sent → plan[k]? = some command →
    ∃ response, outcome world kraApi (n + k) command = .ok response
  returns : result = .ok ⟨⟩ → sent = plan.length ∧
    ∀ k command, plan[k]? = some command →
      ∃ response, outcome world kraApi (n + k) command = .ok response
  throws : ∀ thrown, result = .error thrown → ∃ k command, k + 1 = sent ∧
    plan[k]? = some command ∧ outcome world kraApi (n + k) command = .error thrown

variable {world} {kraApi : KraApi} {n : Nat} {plan : List (String × KraXml)}
  {command : String × KraXml}

theorem submitted_nil : Submitted world kraApi n [] 0 (.ok ⟨⟩) := by
  constructor <;> simp

theorem submitted_of_failed {thrown : Thrown}
    (failed : outcome world kraApi n command = .error thrown) :
    Submitted world kraApi n (command :: plan) 1 (.error thrown) where
  isPrefix := by simp
  stopsAtFailure k _ behind := by omega
  returns ended := by cases ended
  throws other ended := by
    obtain rfl := Except.error.inj ended
    exact ⟨0, command, rfl, rfl, failed⟩

/-- Behind an accepted command, what the others are answered counts. -/
theorem accepted_of_cons {response : HttpResponse} {k : Nat} {other : String × KraXml}
    (accepted : outcome world kraApi n command = .ok response)
    (atK : (command :: plan)[k]? = some other)
    (others : ∀ j, k = j + 1 → plan[j]? = some other →
      ∃ response, outcome world kraApi (n + 1 + j) other = .ok response) :
    ∃ response, outcome world kraApi (n + k) other = .ok response := by
  cases k with
  | zero =>
      obtain rfl := Option.some.inj atK
      exact ⟨response, accepted⟩
  | succ j =>
      rw [show n + (j + 1) = n + 1 + j by omega]
      exact others j rfl atK

theorem submitted_of_accepted {response : HttpResponse} {sent : Nat}
    {result : Except Thrown PUnit} (accepted : outcome world kraApi n command = .ok response)
    (others : Submitted world kraApi (n + 1) plan sent result) :
    Submitted world kraApi n (command :: plan) (sent + 1) result where
  isPrefix := by
    have isPrefix := others.isPrefix
    simp only [List.length_cons]
    omega
  stopsAtFailure k other behind atK := by
    apply accepted_of_cons accepted atK
    intro j isNext atJ
    exact others.stopsAtFailure j other (by omega) atJ
  returns ended := by
    obtain ⟨all, each⟩ := others.returns ended
    refine ⟨by simp [all], ?_⟩
    intro k other atK
    apply accepted_of_cons accepted atK
    intro j _ atJ
    exact each j other atJ
  throws thrown ended := by
    obtain ⟨k, other, isLast, atK, failed⟩ := others.throws thrown ended
    refine ⟨k + 1, other, by omega, atK, ?_⟩
    rw [show n + (k + 1) = n + 1 + k by omega]
    exact failed

/-- The end is normal exactly when every command of the plan was sent and accepted. -/
theorem Submitted.returns_iff {sent : Nat} {result : Except Thrown PUnit}
    (submitted : Submitted world kraApi n plan sent result) :
    result = .ok ⟨⟩ ↔ sent = plan.length ∧ ∀ k command, plan[k]? = some command →
      ∃ response, outcome world kraApi (n + k) command = .ok response := by
  refine ⟨submitted.returns, ?_⟩
  rintro ⟨-, each⟩
  cases ended : result with
  | ok value => rfl
  | error thrown =>
      obtain ⟨k, command, -, atK, failed⟩ := submitted.throws thrown ended
      obtain ⟨response, accepted⟩ := each k command atK
      rw [failed] at accepted
      cases accepted

/-- Sending the commands of a plan does just this, and notes those it sent. -/
theorem exec_submit_all (session : Session collate) (plan : List (String × KraXml)) :
    ∃ sent result, Submitted world session.gateway.kraApi session.calls.length plan sent result ∧
      exec (plan.forM (submit world)) session =
        (result, { session with
          calls := session.calls ++ (plan.take sent).map (callTo (baseUrl.get session)) }) := by
  induction plan generalizing session with
  | nil => exact ⟨0, .ok ⟨⟩, submitted_nil, by simp⟩
  | cons command rest inductionHypothesis =>
      let noted : Session collate :=
        { session with calls := session.calls ++ [callTo (baseUrl.get session) command] }
      have ran := exec_sendCommand world command session
      cases ended : outcome world session.gateway.kraApi session.calls.length command with
      | error thrown =>
          rw [ended] at ran
          refine ⟨1, .error thrown, submitted_of_failed ended, ?_⟩
          exact exec_bind_error (exec_bind_error ran)
      | ok response =>
          rw [ended] at ran
          obtain ⟨sent, result, submitted, others⟩ := inductionHypothesis noted
          have submitted : Submitted world session.gateway.kraApi (session.calls.length + 1) rest
              sent result := by simpa [noted] using submitted
          refine ⟨sent + 1, result, submitted_of_accepted ended submitted, ?_⟩
          have first : exec (submit world command) session = (.ok ⟨⟩, noted) := exec_bind_ok ran
          refine ((exec_bind_ok first).trans others).trans ?_
          simp [noted, baseUrl]

end Plans

/-! ## Registering an item -/

/-- The keys that `registerItem` reads without a fallback, though they are optional. -/
def flagKeys : List String := ["useBarcode", "changeAllowed", "useAdditionalInfoAllowed"]

/-- A field of the payload is vouched for by the rules, or a flag. -/
theorem isVouched_or_flag (now : DateTime) :
    ∀ field ∈ KraItemService.kraItemPayload now,
      field.2.isVouched RegisterKraItemRequest.fields = true ∨
        ∃ key ∈ flagKeys, field.2 = .flag key := by
  have each : ((KraItemService.kraItemPayload now).all fun field =>
      field.2.isVouched RegisterKraItemRequest.fields ||
        match field.2 with
        | .flag key => flagKeys.contains key
        | _ => false) = true := by
    rfl
  intro field member
  have either := List.all_eq_true.mp each field member
  rw [Bool.or_eq_true] at either
  refine either.imp_right fun isFlag => ?_
  split at isFlag
  next key same => exact ⟨key, List.contains_iff_mem.mp isFlag, same⟩
  next => cases isFlag

/-- The payload can be written when the three flags are there. -/
theorem writes_kraItemPayload_iff {itemData : Entries}
    (hold : FieldsHold RegisterKraItemRequest.fields (.arr itemData)) (now : DateTime) :
    (∀ field ∈ KraItemService.kraItemPayload now, field.2.Writes (.arr itemData)) ↔
      ∀ key ∈ flagKeys, ((Value.arr itemData).index key).isSome = true := by
  constructor
  · intro writes key isFlag
    have named : ∃ name, (name, Source.flag key) ∈ KraItemService.kraItemPayload now := by
      simp only [flagKeys, List.mem_cons, List.not_mem_nil, or_false] at isFlag
      rcases isFlag with rfl | rfl | rfl
      · exact ⟨"useBarcode", by simp [KraItemService.kraItemPayload]⟩
      · exact ⟨"changeYn", by simp [KraItemService.kraItemPayload]⟩
      · exact ⟨"useAdiYn", by simp [KraItemService.kraItemPayload]⟩
    obtain ⟨name, member⟩ := named
    exact writes_flag_iff.mp (writes _ member)
  · intro flags field member
    rcases isVouched_or_flag now field member with vouched | ⟨key, isFlag, same⟩
    · exact writes_of_isVouched hold vouched
    · rw [same]
      exact writes_flag_iff.mpr (flags key isFlag)

section Items

variable {collate : String → String} {world : World} {session : Session collate}

/-- A command that KRA only acknowledges is sent once, whatever is answered. -/
theorem calls_acknowledged (endpointPath message : String) (xmlPayload : KraXml)
    (session : Session collate) :
    (exec (acknowledged world endpointPath message xmlPayload) session).2.calls =
      session.calls ++ [callTo (baseUrl.get session) (endpointPath, xmlPayload)] := by
  have sent := exec_sendCommand world (endpointPath, xmlPayload) session
  unfold acknowledged
  cases ended : outcome world session.gateway.kraApi session.calls.length
      (endpointPath, xmlPayload) with
  | error thrown =>
      rw [ended] at sent
      rw [exec_bind_error sent]
  | ok response =>
      rw [ended] at sent
      rw [exec_bind_ok sent, parseXml]
      cases world.platform.simplexmlLoadString response.body <;> rfl

/-- The payload is built, and one `SEND_ITEM` command with it is sent. -/
def RegistersOnce (world : World) (session : Session collate) (kraDevice : KraDevice)
    (itemData : Entries) : Prop :=
  ∃ pin kraItemPayload xmlPayload url, kraDevice.pin = .ok pin ∧
    payload (KraItemService.kraItemPayload world.now) (.arr itemData) = .ok kraItemPayload ∧
    buildKraXml pin "SEND_ITEM" kraItemPayload = .ok xmlPayload ∧
    (exec (KraItemService.registerItem world kraDevice itemData) session).2.calls =
      session.calls ++ [⟨url, "/api/sendItem", .xml xmlPayload, false⟩]

/-- For data whose fields pass their rules, the flags and the base URL decide. -/
theorem registersOnce_iff {kraDevice : KraDevice} {itemData : Entries} {pin : String}
    (hasPin : kraDevice.pin = .ok pin)
    (hold : FieldsHold RegisterKraItemRequest.fields (.arr itemData)) :
    RegistersOnce world session kraDevice itemData ↔
      HasBaseUrl kraDevice ∧
        ∀ key ∈ flagKeys, ((Value.arr itemData).index key).isSome = true := by
  rw [← writes_kraItemPayload_iff hold world.now, ← payload_returns_iff,
    ← @targetBaseUrl_returns_iff world]
  constructor
  · rintro ⟨pin', values, xmlPayload, url, hasPin', read, built, sent⟩
    refine ⟨?_, values, read, (buildKraXml_eq_ok.mp built).1⟩
    cases target : KraSalesService.targetBaseUrl world.config kraDevice with
    | ok url => exact ⟨url, rfl⟩
    | error thrown =>
        rw [KraItemService.registerItem, read, exec_raise_bind_ok, hasPin', exec_raise_bind_ok,
          built, exec_raise_bind_ok, target, withBaseUrl,
          Cell.exec_restoring_error (exec_setBaseUrl_error thrown session)] at sent
        simp at sent
  · rintro ⟨⟨url, target⟩, values, read, noArrays⟩
    have built : buildKraXml pin "SEND_ITEM" values = .ok ⟨pin, "SEND_ITEM", values⟩ :=
      buildKraXml_eq_ok.mpr ⟨noArrays, rfl⟩
    refine ⟨pin, values, _, url, hasPin, read, built, ?_⟩
    rw [KraItemService.registerItem, read, exec_raise_bind_ok, hasPin, exec_raise_bind_ok,
      built, exec_raise_bind_ok, target, withBaseUrl,
      Cell.exec_restoring_ok (exec_setBaseUrl_ok url session)]
    exact calls_acknowledged _ _ _ _

/-- An accepted request registers its item exactly when it gives all three flags, be it
as `null`, and the device has a base URL. -/
theorem registerItem_sends_once_iff {database : Tenants} {row : KraDeviceRow} {input : Entries}
    (stored : row ∈ session.tenants.kraDevices)
    (accepted : schemaPasses (RegisterKraItemRequest.rules database) input = true) :
    RegistersOnce world session (session.tenants.kraDevice row)
        (validatedSchema (RegisterKraItemRequest.rules database) input) ↔
      HasBaseUrl (session.tenants.kraDevice row) ∧
        ∀ key ∈ flagKeys, (read input key).isSome = true := by
  obtain ⟨pin, hasPin⟩ := exists_pin stored
  rw [registersOnce_iff hasPin (RegisterKraItemRequest.fieldsHold accepted)]
  refine and_congr_right fun _ => forall₂_congr fun key isFlag => ?_
  have ruled : ∃ field ∈ RegisterKraItemRequest.fields, field.name = key := by
    have each : ∀ key ∈ flagKeys,
        (RegisterKraItemRequest.fields.any fun field => field.name = key) = true := by
      decide +kernel
    simpa using List.any_eq_true.mp (each key isFlag)
  obtain ⟨field, member, rfl⟩ := ruled
  rw [RegisterKraItemRequest.rules, index_validated_leaf RegisterKraItemRequest.names_nodup member]

end Items

/-- A request to register bread at the till of the first shop, with the flags given. -/
def breadItem (flags : Entries) : Entries :=
  [(.str "gatewayDeviceId", .str Access.shopTill.id),
    (.str "taxpayerPin", .str Access.shopOwner.pin),
    (.str "itemCode", .str "KE1NTXU0000001"), (.str "itemClassificationCode", .str "5059690800"),
    (.str "itemName", .str "Bread"), (.str "packagingUnitCode", .str "NT"),
    (.str "quantityUnitCode", .str "U"), (.str "initialWholesaleUnitPrice", .num 50),
    (.str "initialQuantity", .num 100), (.str "defaultSellingUnitPrice", .num 65),
    (.str "taxType", .str "A"), (.str "inUse", .bool true)] ++ flags

def nullFlags : Entries := flagKeys.map fun key => (.str key, .null)

/-- Bread is registered when the flags are given as `null`. -/
theorem registerItem_sends_once_iff_bread :
    schemaPasses (RegisterKraItemRequest.rules Access.twoShops) (breadItem nullFlags) = true ∧
      (RegistersOnce offlineWorld Devices.shopSession
          (Access.twoShops.kraDevice Access.shopTill)
          (validatedSchema (RegisterKraItemRequest.rules Access.twoShops)
            (breadItem nullFlags)) ↔
        HasBaseUrl (Access.twoShops.kraDevice Access.shopTill) ∧
          ∀ key ∈ flagKeys, (read (breadItem nullFlags) key).isSome = true) := by
  have accepted : schemaPasses (RegisterKraItemRequest.rules Access.twoShops)
      (breadItem nullFlags) = true := by
    decide +kernel
  exact ⟨accepted, registerItem_sends_once_iff Access.shopTill_owned.isDevice accepted⟩

/-- Without the flags it is accepted, and not registered. -/
theorem flagless_bread_not_registered :
    Access.shopTill ∈ Devices.shopSession.tenants.kraDevices ∧
      schemaPasses (RegisterKraItemRequest.rules Access.twoShops) (breadItem []) = true ∧
      ¬ RegistersOnce offlineWorld Devices.shopSession
          (Devices.shopSession.tenants.kraDevice Access.shopTill)
          (validatedSchema (RegisterKraItemRequest.rules Access.twoShops) (breadItem [])) := by
  have accepted : schemaPasses (RegisterKraItemRequest.rules Access.twoShops) (breadItem []) =
      true := by
    decide +kernel
  refine ⟨Access.shopTill_owned.isDevice, accepted, ?_⟩
  have stored : Access.shopTill ∈ Devices.shopSession.tenants.kraDevices :=
    Access.shopTill_owned.isDevice
  obtain ⟨pin, hasPin⟩ := exists_pin stored
  intro registered
  have flags := ((registersOnce_iff hasPin (RegisterKraItemRequest.fieldsHold accepted)).mp
    registered).2
  have given : ((Value.arr (validatedSchema (RegisterKraItemRequest.rules Access.twoShops)
      (breadItem []))).index "useBarcode").isSome = false := by
    decide +kernel
  rw [flags "useBarcode" (by simp [flagKeys])] at given
  cases given

/-! ## Sending a purchase -/

/-- What a request gives under a key, `null` if it gives nothing. -/
def given (input : Entries) (key : String) : Value :=
  (read input key).getD .null

/-- The command for the header of a purchase. -/
def headerCommand (pin : String) (input : Entries) : String × KraXml :=
  ("/api/sendPurchase",
    ⟨pin, "SEND_PURCHASE",
      writtenFields KraPurchaseService.purchaseHeaderPayload (given input)⟩)

/-- The command for an item, with the invoice and the branch of the header. -/
def itemCommand (pin : String) (input item : Entries) : String × KraXml :=
  ("/api/sendPurchaseItem",
    ⟨pin, "SEND_PURCHASEITEM",
      writtenFields KraPurchaseService.purchaseLinkPayload (given input) ++
        writtenFields KraPurchaseService.purchaseItemPayload (given item)⟩)

/-- The header, then the items in order. -/
def purchasePlan (pin : String) (input items : Entries) : List (String × KraXml) :=
  headerCommand pin input :: items.map fun item => itemCommand pin input (fieldsOf item.2)

theorem lookup_headerCommand {pin : String} {input items : Entries}
    (isRead : read input "items" = some (.arr items)) :
    (headerCommand pin input).2.data.lookup "totNumItem" = some (.num items.length) := by
  have counted : Source.written (given input) (.count "items") = .num items.length := by
    simp only [Source.written, given, isRead, Option.getD_some]
  rw [← counted]
  rfl

/-- Does the source pass on what is given under the key? -/
def passesOn (key : String) : Source → Bool
  | .required given | .optional given .null => given = key
  | _ => false

theorem written_of_passesOn {key : String} {source : Source} (item : Entries)
    (same : passesOn key source = true) : source.written (given item) = given item key := by
  cases source with
  | required given =>
      obtain rfl := of_decide_eq_true same
      rfl
  | optional given fallback =>
      cases fallback with
      | null =>
          obtain rfl := of_decide_eq_true same
          rw [Source.written]
          split
          next isNull => exact isNull.symm
          next => rfl
      | bool _ | num _ | str _ | arr _ => cases same
  | either _ _ | flag _ | count _ => cases same

/-- Every field of an item is carried by its command. -/
theorem exists_carried (pin : String) (input item : Entries) {field : Field}
    (member : field ∈ SendKraPurchaseRequest.itemFields) :
    ∃ name, (itemCommand pin input item).2.data.lookup name = some (given item field.name) := by
  have each : (SendKraPurchaseRequest.itemFields.all fun field =>
      KraPurchaseService.purchaseItemPayload.any fun entry =>
        passesOn field.name entry.2) = true := by
    decide +kernel
  obtain ⟨⟨name, source⟩, isEntry, same⟩ :=
    List.any_eq_true.mp (List.all_eq_true.mp each field member)
  have names : (itemCommand pin input item).2.data.map Prod.fst =
      "invId" :: "bhfId" :: KraPurchaseService.purchaseItemPayload.map Prod.fst := by
    rfl
  have distinct : ((itemCommand pin input item).2.data.map Prod.fst).Nodup := by
    rw [names]
    decide +kernel
  have carried : (name, source.written (given item)) ∈ (itemCommand pin input item).2.data := by
    refine List.mem_append_right _ ?_
    exact List.mem_map.mpr ⟨(name, source), isEntry, rfl⟩
  refine ⟨name, ?_⟩
  rw [← written_of_passesOn item same]
  exact lookup_eq_some_of_mem distinct carried

section Purchases

variable {collate : String → String} {world : World} {session : Session collate}
  {database : Tenants} {input items : Entries}

/-- The fields of the header, as `validated()` holds them. -/
theorem given_header :
    ∀ field ∈ SendKraPurchaseRequest.headerFields,
      ((Value.arr (validatedSchema (SendKraPurchaseRequest.rules database) input)).index
        field.name).getD .null = given input field.name := by
  intro field member
  rw [SendKraPurchaseRequest.rules, index_validated_leaf SendKraPurchaseRequest.names_nodup member]
  rfl

/-- The fields of an item, as `validated()` holds them. -/
theorem given_item (item : Entries) :
    ∀ field ∈ SendKraPurchaseRequest.itemFields,
      ((Value.arr (validatedFields SendKraPurchaseRequest.itemFields item)).index
        field.name).getD .null = given item field.name := by
  intro field member
  rw [Value.index,
    lookup_validatedFields_of_mem SendKraPurchaseRequest.itemNames_nodup member]
  rfl

/-- Code that cannot fail is just run. -/
theorem raise_ok_bind {α β : Type} (value : α) (next : α → Service collate β) :
    raise (.ok value) >>= next = next value := rfl

/-- One round of the loop sends the command of its item. -/
theorem sendPurchaseItem_eq_submit (pin : String) {item : Key × Value}
    (accepted : schemaPasses (SendKraPurchaseRequest.rules database) input = true)
    (pass : fieldsPass SendKraPurchaseRequest.itemFields (fieldsOf item.2) = true) :
    (KraPurchaseService.sendPurchaseItem world pin
        (.arr (validatedSchema (SendKraPurchaseRequest.rules database) input))
        (.arr (validatedFields SendKraPurchaseRequest.itemFields (fieldsOf item.2))) :
      Service collate Unit) =
      submit world (itemCommand pin input (fieldsOf item.2)) := by
  have hold := SendKraPurchaseRequest.fieldsHold accepted
  have itemHolds := SendKraPurchaseRequest.fieldsHold_item pass
  have linkVouched : ∀ field ∈ KraPurchaseService.purchaseLinkPayload,
      field.2.isVouched SendKraPurchaseRequest.headerFields = true := by
    decide +kernel
  have itemVouched : ∀ field ∈ KraPurchaseService.purchaseItemPayload,
      field.2.isVouched SendKraPurchaseRequest.itemFields = true := by
    decide +kernel
  have links := payload_eq_ok fun field member =>
    read_eq_written_of_isVouched hold given_header (linkVouched field member)
  have fields := payload_eq_ok fun field member =>
    read_eq_written_of_isVouched itemHolds (given_item (fieldsOf item.2)) (itemVouched field member)
  have linkArrays := any_isArray_of_payload links fun field member =>
    writes_of_isVouched hold (linkVouched field member)
  have fieldArrays := any_isArray_of_payload fields fun field member =>
    writes_of_isVouched itemHolds (itemVouched field member)
  have noArrays : ((itemCommand pin input (fieldsOf item.2)).2.data.any fun child =>
      child.2.isArray) = false := by
    simp only [itemCommand, List.any_append, linkArrays, fieldArrays, Bool.or_false]
  have built : buildKraXml pin "SEND_PURCHASEITEM"
      (writtenFields KraPurchaseService.purchaseLinkPayload (given input) ++
        writtenFields KraPurchaseService.purchaseItemPayload (given (fieldsOf item.2))) =
      .ok (itemCommand pin input (fieldsOf item.2)).2 :=
    buildKraXml_eq_ok.mpr ⟨noArrays, rfl⟩
  rw [KraPurchaseService.sendPurchaseItem, links, raise_ok_bind, fields, raise_ok_bind, built,
    raise_ok_bind]
  rfl

/-- The loop over the items sends their commands. -/
theorem forM_sendPurchaseItem (pin : String)
    (accepted : schemaPasses (SendKraPurchaseRequest.rules database) input = true)
    (pass : ∀ item ∈ items, fieldsPass SendKraPurchaseRequest.itemFields (fieldsOf item.2) = true) :
    ((KraPurchaseService.members (.arr (items.map fun item => (item.1,
        .arr (validatedFields SendKraPurchaseRequest.itemFields (fieldsOf item.2)))))).forM
      (KraPurchaseService.sendPurchaseItem world pin
        (.arr (validatedSchema (SendKraPurchaseRequest.rules database) input))) :
        Service collate PUnit) =
      (items.map fun item => itemCommand pin input (fieldsOf item.2)).forM (submit world) := by
  induction items with
  | nil => rfl
  | cons item rest inductionHypothesis =>
      have others := inductionHypothesis fun other member =>
        pass other (List.mem_cons_of_mem item member)
      have first := @sendPurchaseItem_eq_submit collate world _ _ pin _ accepted
        (pass item List.mem_cons_self)
      exact congrArg₂ (fun head tail => head >>= fun _ => tail) first others

/-- The rules vouch for every field of the header but the number of items. -/
theorem header_vouched_or_count :
    ∀ field ∈ KraPurchaseService.purchaseHeaderPayload,
      field.2.isVouched SendKraPurchaseRequest.headerFields = true ∨
        field.2 = .count "items" := by
  have each : (KraPurchaseService.purchaseHeaderPayload.all fun field =>
      field.2.isVouched SendKraPurchaseRequest.headerFields ||
        match field.2 with
        | .count key => key = "items"
        | _ => false) = true := by
    decide +kernel
  intro field member
  have either := List.all_eq_true.mp each field member
  rw [Bool.or_eq_true] at either
  refine either.imp_right fun isCount => ?_
  split at isCount
  next key same => rw [same, of_decide_eq_true isCount]
  next => cases isCount

/-- The items that were kept are as many as were given. -/
theorem read_count_items
    (accepted : schemaPasses (SendKraPurchaseRequest.rules database) input = true) :
    (Source.count "items").read
        (.arr (validatedSchema (SendKraPurchaseRequest.rules database) input)) =
          .ok ((Source.count "items").written (given input)) ∧
      ((Source.count "items").written (given input)).isArray = false := by
  obtain ⟨items, isRead, kept, -⟩ := SendKraPurchaseRequest.exists_items accepted
  constructor
  · simp only [Source.read, Source.written, offset_eq_ok_of_index kept, given, isRead,
      Option.getD_some, ok_bind, List.length_map]
    rfl
  · simp [Source.written, given, isRead]

/-- The payload of the header holds what the request gives. -/
theorem payload_header
    (accepted : schemaPasses (SendKraPurchaseRequest.rules database) input = true)
    (pin : String) :
    payload KraPurchaseService.purchaseHeaderPayload
        (.arr (validatedSchema (SendKraPurchaseRequest.rules database) input)) =
          .ok (headerCommand pin input).2.data ∧
      ((headerCommand pin input).2.data.any fun child => child.2.isArray) = false := by
  have hold := SendKraPurchaseRequest.fieldsHold accepted
  obtain ⟨counted, isNumber⟩ := read_count_items accepted
  have read : payload KraPurchaseService.purchaseHeaderPayload
      (.arr (validatedSchema (SendKraPurchaseRequest.rules database) input)) =
        .ok (headerCommand pin input).2.data := by
    refine payload_eq_ok fun field member => ?_
    rcases header_vouched_or_count field member with vouched | isCount
    · exact read_eq_written_of_isVouched hold given_header vouched
    · rw [isCount]
      exact counted
  refine ⟨read, any_isArray_of_payload read fun field member => ?_⟩
  rcases header_vouched_or_count field member with vouched | isCount
  · exact writes_of_isVouched hold vouched
  · rw [isCount]
    exact ⟨_, counted, isNumber⟩

/-- For the data of an accepted request, `sendPurchase` is the run of its plan. -/
theorem sendPurchase_eq_plan {kraDevice : KraDevice} {pin : String}
    (hasPin : kraDevice.pin = .ok pin)
    (accepted : schemaPasses (SendKraPurchaseRequest.rules database) input = true)
    (isRead : read input "items" = some (.arr items)) :
    (KraPurchaseService.sendPurchase world kraDevice
        (validatedSchema (SendKraPurchaseRequest.rules database) input) :
        Service collate String) =
      withBaseUrl (KraSalesService.targetBaseUrl world.config kraDevice) (do
        (purchasePlan pin input items).forM (submit world)
        return "Purchase data sent to KRA successfully.") := by
  obtain ⟨others, isReadToo, kept, pass⟩ := SendKraPurchaseRequest.exists_items accepted
  obtain rfl : others = items := Value.arr.inj (Option.some.inj (isReadToo.symm.trans isRead))
  obtain ⟨header, noArrays⟩ := payload_header accepted pin
  have built : buildKraXml pin "SEND_PURCHASE" (headerCommand pin input).2.data =
      .ok (headerCommand pin input).2 :=
    buildKraXml_eq_ok.mpr ⟨noArrays, rfl⟩
  have loop := @forM_sendPurchaseItem collate world _ _ _ pin accepted pass
  rw [KraPurchaseService.sendPurchase, hasPin, raise_ok_bind, header, raise_ok_bind, built,
    raise_ok_bind, offset_eq_ok_of_index kept]
  simp only [raise_ok_bind, loop, purchasePlan]
  refine congrArg (withBaseUrl _) ?_
  show _ = (submit world (headerCommand pin input) >>= fun _ => _) >>= fun _ => _
  rw [bind_assoc, submit, bind_assoc]
  simp only [pure_bind]
  rfl

/-- The plan carries what was requested: the number of items, and with each item its
fields, the invoice and the branch. -/
structure Carries (pin : String) (input items : Entries) : Prop where
  totNumItem :
    (headerCommand pin input).2.data.lookup "totNumItem" = some (.num items.length)
  invoice : ∀ item ∈ items, (itemCommand pin input (fieldsOf item.2)).2.data.lookup "invId" =
    some (given input "invoiceId")
  branch : ∀ item ∈ items, (itemCommand pin input (fieldsOf item.2)).2.data.lookup "bhfId" =
    some (given input "branchId")
  fields : ∀ item ∈ items, ∀ field ∈ SendKraPurchaseRequest.itemFields,
    ∃ name, (itemCommand pin input (fieldsOf item.2)).2.data.lookup name =
      some (given (fieldsOf item.2) field.name)

theorem carries (pin : String) (isRead : read input "items" = some (.arr items)) :
    Carries pin input items where
  totNumItem := lookup_headerCommand isRead
  invoice _ _ := rfl
  branch _ _ := rfl
  fields _ _ _ member := exists_carried pin input _ member

/-- The run of a plan: the commands sent are its first, none follows one that failed, and
the message is returned exactly when all were sent and accepted. What is thrown else is
the failure of the last. -/
structure RunsPlan (world : World) (session : Session collate) (plan : List (String × KraXml))
    (url : String) (ended : Except Thrown String) (after : Session collate) (sent : Nat) :
    Prop where
  isPrefix : sent ≤ plan.length
  calls : after.calls = session.calls ++ (plan.take sent).map (callTo url)
  stopsAtFailure : ∀ k command, k + 1 < sent → plan[k]? = some command →
    ∃ response, outcome world (baseUrl.put url session).gateway.kraApi
      (session.calls.length + k) command = .ok response
  returns_iff : ended = .ok "Purchase data sent to KRA successfully." ↔
    sent = plan.length ∧ ∀ k command, plan[k]? = some command →
      ∃ response, outcome world (baseUrl.put url session).gateway.kraApi
        (session.calls.length + k) command = .ok response
  throws : ∀ thrown, ended = .error thrown → ∃ k command, k + 1 = sent ∧
    plan[k]? = some command ∧ outcome world (baseUrl.put url session).gateway.kraApi
      (session.calls.length + k) command = .error thrown

theorem runsPlan (plan : List (String × KraXml)) (url : String) :
    ∃ sent, RunsPlan world session plan url
      (exec (withBaseUrl (.ok url) (do
        plan.forM (submit world)
        return "Purchase data sent to KRA successfully.")) session).1
      (exec (withBaseUrl (.ok url) (do
        plan.forM (submit world)
        return "Purchase data sent to KRA successfully.")) session).2 sent := by
  obtain ⟨sent, result, submitted, ran⟩ := exec_submit_all (baseUrl.put url session) plan
  rw [withBaseUrl, Cell.exec_restoring_ok (exec_setBaseUrl_ok url session)]
  refine ⟨sent, submitted.isPrefix, ?_, submitted.stopsAtFailure, ?_, ?_⟩
  · rw [exec_bind, ran]
    cases result <;> rfl
  · refine Iff.trans ?_ submitted.returns_iff
    rw [exec_bind, ran]
    cases result <;> simp
  · intro thrown ended
    refine submitted.throws thrown ?_
    rw [exec_bind, ran] at ended
    cases result with
    | ok value => cases ended
    | error other => exact congrArg _ (Except.error.inj ended)

/-- An accepted purchase is submitted as header, then items. Without a base URL nothing
is sent. -/
theorem sendPurchase_submits_plan {row : KraDeviceRow} (stored : row ∈ session.tenants.kraDevices)
    (accepted : schemaPasses (SendKraPurchaseRequest.rules database) input = true) :
    ∃ pin items, (session.tenants.kraDevice row).pin = .ok pin ∧
      read input "items" = some (.arr items) ∧ Carries pin input items ∧
      let run := exec (KraPurchaseService.sendPurchase world (session.tenants.kraDevice row)
        (validatedSchema (SendKraPurchaseRequest.rules database) input)) session
      match KraSalesService.targetBaseUrl world.config (session.tenants.kraDevice row) with
      | .error thrown => run = (.error (.php thrown), session)
      | .ok url => ∃ sent, RunsPlan world session (purchasePlan pin input items) url run.1 run.2
          sent := by
  obtain ⟨pin, hasPin⟩ := exists_pin stored
  obtain ⟨items, isRead, -, -⟩ := SendKraPurchaseRequest.exists_items accepted
  refine ⟨pin, items, hasPin, isRead, carries pin isRead, ?_⟩
  rw [sendPurchase_eq_plan hasPin accepted isRead]
  cases KraSalesService.targetBaseUrl world.config (session.tenants.kraDevice row) with
  | error thrown => exact Cell.exec_restoring_error (exec_setBaseUrl_error thrown session)
  | ok url => exact runsPlan _ url

end Purchases

/-- An item of a purchase from the second shop. -/
def flourLine (sequence : ℚ) : Value :=
  .arr [(.str "sequence", .num sequence), (.str "itemClassificationCode", .str "5059690800"),
    (.str "itemCode", .str "KE1NTXU0000002"), (.str "itemName", .str "Flour"),
    (.str "supplierItemClassificationCode", .str "5059690800"),
    (.str "supplierItemCode", .str "FL-1"), (.str "supplierItemName", .str "Flour"),
    (.str "packagingUnitCode", .str "BG"), (.str "packagingQuantity", .num 1),
    (.str "quantityUnitCode", .str "KG"), (.str "quantity", .num 2),
    (.str "unitPrice", .num 100), (.str "supplierPrice", .num 200),
    (.str "discountRate", .num 0), (.str "discountAmount", .num 0),
    (.str "taxableAmount", .num 200), (.str "taxType", .str "A"), (.str "taxAmount", .num 0)]

def flourPurchase : Entries :=
  [(.str "gatewayDeviceId", .str Access.shopTill.id),
    (.str "taxpayerPin", .str Access.shopOwner.pin), (.str "invoiceId", .str "INV-1"),
    (.str "branchId", .str "00"), (.str "supplierPin", .str Access.numberedOwner.pin),
    (.str "supplierName", .str "Miller"), (.str "supplierCuId", .str "KRACU0100000002"),
    (.str "registrationTypeCode", .str "M"), (.str "referenceId", .str "REF-1"),
    (.str "paymentTypeCode", .str "01"), (.str "invoiceStatusCode", .str "02"),
    (.str "transactionDate", .str "20250703"), (.str "totalSupplierPrice", .num 400),
    (.str "totalTax", .num 0), (.str "totalAmount", .num 400),
    (.str "registerUserId", .str "clerk"), (.str "registerDate", .str "20250703130810"),
    (.str "items", .arr [(.int 0, flourLine 1), (.int 1, flourLine 2)])]

/-- Flour is bought in two lines. -/
theorem sendPurchase_submits_plan_flour :
    schemaPasses (SendKraPurchaseRequest.rules Access.twoShops) flourPurchase = true ∧
      ∃ pin items, (Access.twoShops.kraDevice Access.shopTill).pin = .ok pin ∧
        read flourPurchase "items" = some (.arr items) ∧ Carries pin flourPurchase items ∧
        let run := exec (KraPurchaseService.sendPurchase offlineWorld
          (Access.twoShops.kraDevice Access.shopTill)
          (validatedSchema (SendKraPurchaseRequest.rules Access.twoShops) flourPurchase))
          Devices.shopSession
        match KraSalesService.targetBaseUrl offlineWorld.config
          (Access.twoShops.kraDevice Access.shopTill) with
        | .error thrown => run = (.error (.php thrown), Devices.shopSession)
        | .ok url => ∃ sent, RunsPlan offlineWorld Devices.shopSession
            (purchasePlan pin flourPurchase items) url run.1 run.2 sent := by
  have accepted : schemaPasses (SendKraPurchaseRequest.rules Access.twoShops) flourPurchase =
      true := by
    decide +kernel
  have stored : Access.shopTill ∈ Devices.shopSession.tenants.kraDevices :=
    Access.shopTill_owned.isDevice
  exact ⟨accepted, sendPurchase_submits_plan stored accepted⟩

end TaxGateway.Client
