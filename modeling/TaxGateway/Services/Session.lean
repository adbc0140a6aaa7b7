import TaxGateway.Foundations.Effects
import TaxGateway.Database.Tenants
import TaxGateway.Services.KraClient
import TaxGateway.Services.KraSalesService

/-!
Contract: the state that all KRA services share, and what they do to it.

Owns:
- a session: the tables, the queue, the shared client, and the commands handed to
  the client with the base URL in effect;
- the actions the service methods are made of: raise, parse, switch the base URL,
  send a command, send one that is only acknowledged;
- the relation kept by whatever runs while a base URL is in effect;
- when an action returns, and what a command answers in simulation mode.

Does not own: the service methods.
-/

namespace TaxGateway.Services

open TaxGateway.Php
open TaxGateway.Database
open TaxGateway.Effects

inductive Command where
  | xml (payload : KraXml)
  | json (payload : List (String × Value))

/-- A command handed to the client, with the base URL then in effect. -/
structure Call where
  baseUrl : String
  endpoint : String
  command : Command
  isStrictTimeout : Bool

/-- What a service call meets: library code, configuration, clock, the outcome of
the exchange for the nth command of the session, and the failures of database and
queue. -/
structure World where
  platform : Platform
  jsonDecode : String → Option Value
  /-- What simulation mode answers or throws for JSON commands. -/
  simulateJson : String → List (String × Value) → Except Throwable HttpResponse
  config : KraConfig
  now : DateTime
  uuid : String
  transport : Nat → Transport
  database : Option String
  queue : Option String

structure Session (collate : String → String) where
  gateway : Gateway collate
  tenants : Tenants
  calls : List Call

variable {collate : String → String}

/-- Code of a service method. -/
abbrev Service (collate : String → String) (α : Type) : Type :=
  Action Thrown (Session collate) α

namespace Session

/-- The base URL of the shared client. -/
def baseUrl : Cell (Session collate) String where
  get session := session.gateway.kraApi.baseUrl
  put url session := { session with gateway := KraSalesService.setBaseUrl session.gateway url }
  get_put _ _ := rfl

/-- Code that throws no `KraApiException`. -/
def raise {α : Type} (outcome : Except Throwable α) : Service collate α :=
  ofExcept (outcome.mapError Thrown.php)

/-- `$this->kraApi->setBaseUrl($url)`. A URL that is no text is refused before it is
stored. -/
def setBaseUrl (url : Except Throwable String) : Service collate Unit := do
  baseUrl.write (← raise url)

/-- Hand a command to the client. -/
def transmit (world : World) (endpoint : String) (command : Command) (isStrictTimeout : Bool)
    (send : KraApi → Transport → Except Thrown HttpResponse) : Service collate HttpResponse := do
  let session ← get
  let kraApi := session.gateway.kraApi
  modify fun session =>
    { session with
      calls := session.calls ++ [⟨kraApi.baseUrl, endpoint, command, isStrictTimeout⟩] }
  ofExcept (send kraApi (world.transport session.calls.length))

/-- `$this->kraApi->sendCommand($endpoint, $xmlPayload, $isStrictTimeout)`. -/
def sendCommand (world : World) (endpoint : String) (xmlPayload : KraXml)
    (isStrictTimeout : Bool) : Service collate HttpResponse :=
  transmit world endpoint (.xml xmlPayload) isStrictTimeout fun kraApi transport =>
    KraClient.sendCommand world.platform kraApi endpoint xmlPayload isStrictTimeout
      fun _ => transport

/-- `$this->kraApi->sendJsonCommand($endpoint, $jsonPayload, $isStrictTimeout)`. -/
def sendJsonCommand (world : World) (endpoint : String) (jsonPayload : List (String × Value))
    (isStrictTimeout : Bool) : Service collate HttpResponse :=
  transmit world endpoint (.json jsonPayload) isStrictTimeout fun kraApi transport =>
    KraClient.sendJsonCommand world.platform world.jsonDecode world.simulateJson kraApi endpoint
      jsonPayload isStrictTimeout fun _ => transport

/-- `simplexml_load_string($body)`. A text that is no XML raises a warning, hence an
exception. -/
def parseXml (world : World) (body : String) : Service collate Xml :=
  match world.platform.simplexmlLoadString body with
  | some parsed => pure parsed
  | none => raise (.error (.exception "simplexml_load_string(): parser error"))

/-- The `try` statement of a method: the base URL is switched before it and put back
by its `finally`. -/
def withBaseUrl {α : Type} (url : Except Throwable String) (body : Service collate α) :
    Service collate α :=
  baseUrl.restoring (setBaseUrl url) body

/-- What is returned for a command that KRA only acknowledges. -/
structure Acknowledgement where
  status : String
  message : String
  kraResponse : String

/-- The end of a method whose command KRA only acknowledges. -/
def acknowledged (world : World) (endpointPath message : String) (xmlPayload : KraXml) :
    Service collate Acknowledgement := do
  let response ← sendCommand world endpointPath xmlPayload false
  let parsedXml ← parseXml world response.body
  return ⟨parsedXml.childTextOr "STATUS" "UNKNOWN", message, response.body⟩

/-! ## While a base URL is in effect -/

/-- The base URL is kept, and whatever was sent went there. -/
structure Within (session session' : Session collate) : Prop where
  keepsUrl : baseUrl.get session' = baseUrl.get session
  sendsThere : ∃ sent, session'.calls = session.calls ++ sent ∧
    ∀ call ∈ sent, call.baseUrl = baseUrl.get session

instance : IsPreorder (Session collate) Within where
  refl session := ⟨rfl, [], (List.append_nil _).symm, by simp⟩
  trans first second third := by
    rintro ⟨keeps, sent, calls, there⟩ ⟨keeps', sent', calls', there'⟩
    refine ⟨keeps'.trans keeps, sent ++ sent', ?_, ?_⟩
    · rw [calls', calls, List.append_assoc]
    · intro call member
      rcases List.mem_append.mp member with isFirst | isSecond
      · exact there call isFirst
      · rw [there' call isSecond, keeps]

/-- A change that touches neither the client nor its log. -/
theorem within_of_same {session session' : Session collate}
    (sameApi : session'.gateway.kraApi = session.gateway.kraApi)
    (sameCalls : session'.calls = session.calls) : Within session session' :=
  ⟨congrArg KraApi.baseUrl sameApi, [], by rw [sameCalls, List.append_nil], by simp⟩

theorem follows_raise {α : Type} {R : Session collate → Session collate → Prop} [Std.Refl R]
    (outcome : Except Throwable α) : Follows R (raise outcome : Service collate α) :=
  follows_ofExcept _

theorem exec_raise_bind_ok {α β : Type} (value : α) (next : α → Service collate β)
    (session : Session collate) :
    exec (raise (.ok value) >>= next) session = exec (next value) session := rfl

theorem exec_raise_bind_error {α β : Type} (thrown : Throwable) (next : α → Service collate β)
    (session : Session collate) :
    exec (raise (.error thrown) >>= next) session = (.error (.php thrown), session) := rfl

theorem follows_parseXml (world : World) (body : String) :
    Follows Within (parseXml world body : Service collate Xml) := by
  unfold parseXml
  cases world.platform.simplexmlLoadString body with
  | none => exact follows_raise _
  | some parsed => exact follows_pure parsed

theorem exec_transmit (world : World) (endpoint : String) (command : Command)
    (isStrictTimeout : Bool) (send : KraApi → Transport → Except Thrown HttpResponse)
    (session : Session collate) :
    exec (transmit world endpoint command isStrictTimeout send) session =
      (send session.gateway.kraApi (world.transport session.calls.length),
        { session with
          calls := session.calls ++
            [⟨session.gateway.kraApi.baseUrl, endpoint, command, isStrictTimeout⟩] }) := by
  simp [transmit, exec_bind]

theorem follows_transmit (world : World) (endpoint : String) (command : Command)
    (isStrictTimeout : Bool) (send : KraApi → Transport → Except Thrown HttpResponse) :
    Follows Within
      (transmit world endpoint command isStrictTimeout send : Service collate HttpResponse) := by
  intro session
  rw [exec_transmit]
  refine ⟨rfl, _, rfl, ?_⟩
  intro call member
  rw [List.mem_singleton.mp member]
  rfl

theorem follows_sendCommand (world : World) (endpoint : String) (xmlPayload : KraXml)
    (isStrictTimeout : Bool) :
    Follows Within
      (sendCommand world endpoint xmlPayload isStrictTimeout : Service collate HttpResponse) :=
  follows_transmit _ _ _ _ _

theorem follows_acknowledged (world : World) (endpointPath message : String)
    (xmlPayload : KraXml) :
    Follows Within
      (acknowledged world endpointPath message xmlPayload : Service collate Acknowledgement) :=
  (follows_sendCommand _ _ _ _).bind fun _ =>
    (follows_parseXml _ _).bind fun _ => follows_pure _

/-! ## Switching it -/

theorem exec_setBaseUrl_ok (url : String) (session : Session collate) :
    exec (setBaseUrl (.ok url)) session = (.ok ⟨⟩, baseUrl.put url session) := rfl

theorem exec_setBaseUrl_error (thrown : Throwable) (session : Session collate) :
    exec (setBaseUrl (.error thrown)) session = (.error (.php thrown), session) := rfl

/-- The base URL is kept, and whatever was sent went to `url`. -/
structure SendsTo (url : Except Throwable String) (session session' : Session collate) :
    Prop where
  keepsUrl : baseUrl.get session' = baseUrl.get session
  sendsThere : ∃ sent, session'.calls = session.calls ++ sent ∧
    ∀ call ∈ sent, .ok call.baseUrl = url

instance (url : Except Throwable String) :
    IsPreorder (Session collate) (SendsTo url) where
  refl session := ⟨rfl, [], (List.append_nil _).symm, by simp⟩
  trans first second third := by
    rintro ⟨keeps, sent, calls, there⟩ ⟨keeps', sent', calls', there'⟩
    refine ⟨keeps'.trans keeps, sent ++ sent', ?_, ?_⟩
    · rw [calls', calls, List.append_assoc]
    · intro call member
      rcases List.mem_append.mp member with isFirst | isSecond
      · exact there call isFirst
      · exact there' call isSecond

/-- Once the base URL is switched, a body that stays within it sends there, and the
old base URL is back. -/
theorem sendsTo_restoring {α : Type} {switch : Service collate Unit}
    {body : Service collate α} {session between : Session collate}
    (switched : exec switch session = (.ok ⟨⟩, between))
    (sameCalls : between.calls = session.calls) (within : Follows Within body) :
    SendsTo (.ok (baseUrl.get between)) session
      (exec (baseUrl.restoring switch body) session).2 := by
  rw [Cell.exec_restoring_ok switched]
  obtain ⟨-, sent, calls, there⟩ := within between
  exact ⟨baseUrl.get_put _ _, sent, by rw [← sameCalls]; exact calls,
    fun call member => congrArg Except.ok (there call member)⟩

theorem follows_withBaseUrl {α : Type} {url : Except Throwable String}
    {body : Service collate α} (within : Follows Within body) :
    Follows (SendsTo url) (withBaseUrl url body) := by
  intro session
  cases url with
  | error thrown =>
      rw [withBaseUrl, Cell.exec_restoring_error (exec_setBaseUrl_error thrown session)]
      exact Std.Refl.refl session
  | ok text => exact sendsTo_restoring (exec_setBaseUrl_ok text session) rfl within

/-! ## Returning -/

section Returning

variable {α β : Type} {session : Session collate}

theorem returns_raise_bind_iff {outcome : Except Throwable α} {next : α → Service collate β} :
    Returns (raise outcome >>= next) session ↔
      ∃ value, outcome = .ok value ∧ Returns (next value) session := by
  unfold Returns
  cases outcome with
  | ok value =>
      rw [exec_raise_bind_ok]
      simp
  | error thrown =>
      rw [exec_raise_bind_error]
      simp

theorem returns_raise_ok_bind_iff {value : α} {next : α → Service collate β} :
    Returns (raise (.ok value) >>= next) session ↔ Returns (next value) session := by
  rw [Returns, exec_raise_bind_ok, Returns]

/-- A document that cannot be read ends the method. -/
theorem returns_parseXml_bind_iff {world : World} {body : String}
    {next : Xml → Service collate β} :
    Returns (parseXml world body >>= next) session ↔
      ∃ parsed, world.platform.simplexmlLoadString body = some parsed ∧
        Returns (next parsed) session := by
  unfold parseXml
  cases world.platform.simplexmlLoadString body with
  | none => simp [returns_raise_bind_iff]
  | some parsed =>
      rw [returns_bind_iff_of_ok (exec_pure parsed session)]
      simp

theorem returns_withBaseUrl_iff {url : Except Throwable String} {body : Service collate α} :
    Returns (withBaseUrl url body) session ↔
      ∃ text, url = .ok text ∧ Returns body (baseUrl.put text session) := by
  cases url with
  | ok text =>
      rw [withBaseUrl, Cell.returns_restoring_iff_of_ok (exec_setBaseUrl_ok text session)]
      simp
  | error thrown =>
      have fails : ¬ Returns (withBaseUrl (.error thrown) body) session :=
        Cell.not_returns_restoring_of_error (exec_setBaseUrl_error thrown session)
      simp [fails]

/-! ## What is returned -/

theorem ensures_raise (outcome : Except Throwable α) :
    Ensures (fun value => outcome = .ok value) (raise outcome : Service collate α) := by
  intro session value returned
  cases outcome with
  | ok other => exact congrArg Except.ok (Except.ok.inj returned)
  | error thrown => cases returned

theorem ensures_parseXml (world : World) (body : String) :
    Ensures (fun parsed => world.platform.simplexmlLoadString body = some parsed)
      (parseXml world body : Service collate Xml) := by
  unfold parseXml
  cases world.platform.simplexmlLoadString body with
  | none =>
      intro session value returned
      cases returned
  | some parsed => exact ensures_pure rfl

/-! ## Simulation mode -/

variable {answer : String → KraXml → Except Throwable HttpResponse}

/-- The client answers commands itself. -/
def IsSimulated (answer : String → KraXml → Except Throwable HttpResponse)
    (session : Session collate) : Prop :=
  session.gateway.kraApi.simulation = some answer

/-- A command is answered at once, and the mode stays on. -/
theorem exec_sendCommand_of_isSimulated (simulated : IsSimulated answer session) (world : World)
    (endpoint : String) (xmlPayload : KraXml) (isStrictTimeout : Bool) :
    ∃ after, exec (sendCommand world endpoint xmlPayload isStrictTimeout) session =
        ((answer endpoint xmlPayload).mapError .php, after) ∧ IsSimulated answer after ∧
      after.gateway = session.gateway ∧ after.tenants = session.tenants := by
  have answered : session.gateway.kraApi.simulation = some answer := simulated
  rw [sendCommand, exec_transmit]
  simp only [KraClient.sendCommand, answered]
  exact ⟨_, rfl, simulated, rfl, rfl⟩

theorem returns_sendCommand_bind {world : World} {endpoint : String} {xmlPayload : KraXml}
    {isStrictTimeout : Bool} {next : HttpResponse → Service collate β}
    (decides : Prop) (simulated : IsSimulated answer session) {response : HttpResponse}
    (answers : answer endpoint xmlPayload = .ok response)
    (rest : ∀ after, IsSimulated answer after → (Returns (next response) after ↔ decides)) :
    Returns (sendCommand world endpoint xmlPayload isStrictTimeout >>= next) session ↔
      decides := by
  obtain ⟨after, sent, still, -⟩ :=
    exec_sendCommand_of_isSimulated simulated world endpoint xmlPayload isStrictTimeout
  rw [answers] at sent
  rw [returns_bind_iff_of_ok sent]
  exact rest after still

/-- What simulation mode throws ends the call. -/
theorem not_returns_sendCommand_bind {world : World} {endpoint : String} {xmlPayload : KraXml}
    {isStrictTimeout : Bool} {next : HttpResponse → Service collate β}
    (simulated : IsSimulated answer session) {thrown : Throwable}
    (throws : answer endpoint xmlPayload = .error thrown) :
    ¬ Returns (sendCommand world endpoint xmlPayload isStrictTimeout >>= next) session := by
  obtain ⟨after, sent, -⟩ :=
    exec_sendCommand_of_isSimulated simulated world endpoint xmlPayload isStrictTimeout
  rw [throws] at sent
  rintro ⟨value, returned⟩
  rw [exec_bind_error sent] at returned
  cases returned

theorem isSimulated_put {url : String} (simulated : IsSimulated answer session) :
    IsSimulated answer (baseUrl.put url session) :=
  simulated

end Returning

end Session

end TaxGateway.Services
