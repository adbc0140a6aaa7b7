import TaxGateway.Services.KraApi

/-!
Contract: the `try` statements of `KraApi::sendCommand` and `sendJsonCommand`.

Owns:
- what is raised inside each `try` block, and what the three `catch` clauses
  make of it;
- `sendJsonCommand`, with every error path;
- the agreement with `KraApi.sendCommand`, where the clauses are already
  applied;
- the exception discipline: what a call can end with, and what the error code
  and the HTTP status of its exception say.

Does not own: the parsers, the transport, the answers of simulation mode.
-/

namespace TaxGateway.Services.KraClient

open TaxGateway.Php
open TaxGateway.Services.KraApi

/-! ## The catch clauses -/

/-- What is raised inside a `try` block: the `RequestException` of
`$response->throw()`, a `KraApiException`, or any other throwable. -/
inductive Raised where
  | request (response : HttpResponse)
  | kraApi (exception : KraApiException)
  | other (message : String)

/-- `$responseBody`: `null` until there is an answer. -/
def responseBody : Transport → Option String
  | .failed _ => none
  | .answered response => some response.body

/-- The three `catch` clauses. -/
def caught (platform : Platform) (transport : Transport) : Raised → Thrown
  | .request response => .kraApi (httpError platform response)
  | .kraApi exception => .kraApi exception
  | .other message => .kraApi (generalError message (responseBody transport))

/-- The exchange up to `$response->throw()`. -/
def exchange : Transport → Except Raised HttpResponse
  | .failed message => .error (.other message)
  | .answered response =>
      if 400 ≤ response.status then .error (.request response) else .ok response

/-! ## XML -/

/-- The checks of an XML answer. -/
def readXml (platform : Platform) (response : HttpResponse) : Except Raised HttpResponse :=
  match platform.simplexmlLoadString response.body with
  | none => .error (.other (invalidXmlMessage response.body))
  | some parsed =>
      if statusCode parsed = "E" then .error (.kraApi (statusError parsed response.body))
      else .ok response

def sendCommand (platform : Platform) (api : KraApi) (endpoint : String)
    (xmlPayload : KraXml) (isStrictTimeout : Bool) (network : Outgoing → Transport) :
    Except Thrown HttpResponse :=
  match api.simulation with
  | some simulate => (simulate endpoint xmlPayload).mapError .php
  | none =>
      let timeoutMs := if isStrictTimeout then api.strictTimeoutMs else api.generalTimeoutMs
      let transport := network ⟨api.url endpoint, xmlPayload, timeoutMs⟩
      (exchange transport >>= readXml platform).mapError (caught platform transport)

/-- The `try` statement does what `KraApi.sendCommand` says. -/
theorem sendCommand_eq (platform : Platform) (api : KraApi) (endpoint : String)
    (xmlPayload : KraXml) (isStrictTimeout : Bool) (network : Outgoing → Transport) :
    sendCommand platform api endpoint xmlPayload isStrictTimeout network =
      KraApi.sendCommand platform api endpoint xmlPayload isStrictTimeout network := by
  unfold sendCommand KraApi.sendCommand
  cases api.simulation with
  | some simulate => rfl
  | none =>
      dsimp only
      generalize network _ = transport
      cases transport with
      | failed message => rfl
      | answered response =>
          by_cases httpFailed : 400 ≤ response.status
          · simp [exchange, checkAnswer, httpFailed, bind, Except.bind, Except.mapError, caught]
          · simp only [exchange, checkAnswer, httpFailed, if_false, ok_bind, readXml]
            cases platform.simplexmlLoadString response.body with
            | none => rfl
            | some parsed =>
                by_cases isError : statusCode parsed = "E" <;>
                  simp [isError, Except.mapError, caught]

/-! ## JSON -/

/-- A value put into a text: an array raises a warning, hence an exception. -/
def interpolate : Value → Option String
  | .null => some ""
  | .bool flag => some (if flag then "1" else "")
  | .num value => some (numberText value)
  | .str text => some text
  | .arr _ => none

/-- The exception for a `resultCd` other than `000`. -/
def resultError (resultCd resultMsg : String) (response : HttpResponse) :
    KraApiException where
  message := "KRA returned an error status: [" ++ resultCd ++ "] " ++ resultMsg
  kraRawResponse := some response.body
  kraErrorCode := some resultCd
  kraHttpStatus := some response.status

/-- The checks of a JSON answer. Only the text `000` is a success: the number
zero is not. -/
def readJson (jsonDecode : String → Option Value) (response : HttpResponse) :
    Except Raised HttpResponse :=
  match jsonDecode response.body with
  | none => .error (.other ("KRA response is not valid JSON: " ++ response.body))
  | some parsedJson =>
      match parsedJson.index "resultCd" with
      | none | some .null | some (.str "000") => .ok response
      | some resultCd =>
          let resultMsg := parsedJson.coalesce "resultMsg" (.str "No specific message.")
          match interpolate resultCd, interpolate resultMsg with
          | some code, some message => .error (.kraApi (resultError code message response))
          | _, _ => .error (.other "Array to string conversion")

/-- The HTTP request `sendJsonCommand` makes. -/
structure OutgoingJson where
  url : String
  payload : List (String × Value)
  timeoutMs : Nat

/-- `sendJsonCommand`. `simulate` is what simulation mode answers or throws. -/
def sendJsonCommand (platform : Platform) (jsonDecode : String → Option Value)
    (simulate : String → List (String × Value) → Except Throwable HttpResponse) (api : KraApi)
    (endpoint : String) (jsonPayload : List (String × Value)) (isStrictTimeout : Bool)
    (network : OutgoingJson → Transport) : Except Thrown HttpResponse :=
  if api.simulation.isSome then (simulate endpoint jsonPayload).mapError .php
  else
    let timeoutMs := if isStrictTimeout then api.strictTimeoutMs else api.generalTimeoutMs
    let transport := network ⟨api.url endpoint, jsonPayload, timeoutMs⟩
    (exchange transport >>= readJson jsonDecode).mapError (caught platform transport)

/-! ## Exception discipline -/

section Discipline

variable {platform : Platform} {jsonDecode : String → Option Value} {transport : Transport}

/-- A call ends with an accepted answer of a status below 400, or with a
`KraApiException`. -/
def EndsWell (accepted : HttpResponse → Prop) (transport : Transport) :
    Except Thrown HttpResponse → Prop
  | .ok response => transport = .answered response ∧ response.status < 400 ∧ accepted response
  | .error thrown => ∃ exception, thrown = .kraApi exception

/-- An exception has an error code exactly when KRA's own error was read from the
answer, and an HTTP status of 400 or more exactly when the answer had it. -/
def CodesTell (errorRead : HttpResponse → Prop) (transport : Transport)
    (outcome : Except Thrown HttpResponse) : Prop :=
  ∀ exception, outcome = .error (.kraApi exception) →
    (exception.kraErrorCode.isSome = true ↔
      ∃ response, transport = .answered response ∧ response.status < 400 ∧
        errorRead response) ∧
    ∀ status, 400 ≤ status →
      (exception.kraHttpStatus = some status ↔
        ∃ response, transport = .answered response ∧ response.status = status)

/-- A body that parses, with a status that is not `E`. -/
def XmlAccepted (platform : Platform) (response : HttpResponse) : Prop :=
  ∃ parsed, platform.simplexmlLoadString response.body = some parsed ∧
    statusCode parsed ≠ "E"

/-- A body that parses, with the status `E`. -/
def XmlErrorRead (platform : Platform) (response : HttpResponse) : Prop :=
  ∃ parsed, platform.simplexmlLoadString response.body = some parsed ∧
    statusCode parsed = "E"

/-- A `resultCd` that stands for success. -/
def IsSuccess (resultCd : Option Value) : Prop :=
  resultCd = none ∨ resultCd = some .null ∨ resultCd = some (.str "000")

/-- Valid JSON, with a `resultCd` that stands for success. -/
def JsonAccepted (jsonDecode : String → Option Value) (response : HttpResponse) : Prop :=
  ∃ parsed, jsonDecode response.body = some parsed ∧ IsSuccess (parsed.index "resultCd")

/-- Valid JSON, with another `resultCd`. -/
def JsonErrorRead (jsonDecode : String → Option Value) (response : HttpResponse) : Prop :=
  ∃ parsed, jsonDecode response.body = some parsed ∧ ¬ IsSuccess (parsed.index "resultCd")

/-- A field that is a string, a number or absent. -/
def IsPlain : Option Value → Prop
  | none | some (.str _) | some (.num _) => True
  | some .null | some (.bool _) | some (.arr _) => False

/-- An answer whose `resultCd` and `resultMsg` are, if it is JSON. -/
def PlainResult (jsonDecode : String → Option Value) (response : HttpResponse) : Prop :=
  ∀ parsed, jsonDecode response.body = some parsed →
    IsPlain (parsed.index "resultCd") ∧ IsPlain (parsed.index "resultMsg")

theorem generalError_kraErrorCode (message : String) (body : Option String) :
    (generalError message body).kraErrorCode = none := rfl

theorem generalError_kraHttpStatus (message : String) (body : Option String) :
    (generalError message body).kraHttpStatus = some 0 := rfl

theorem httpError_kraErrorCode (response : HttpResponse) :
    (httpError platform response).kraErrorCode = none := rfl

theorem httpError_kraHttpStatus (response : HttpResponse) :
    (httpError platform response).kraHttpStatus = some response.status := rfl

/-- What a reader of answers raises: KRA's own error with its code, exactly when
it was read. -/
def ErrorTold (errorRead : HttpResponse → Prop) (response : HttpResponse) : Raised → Prop
  | .request _ => False
  | .kraApi exception =>
      errorRead response ∧ exception.kraErrorCode.isSome = true ∧
        ∀ status, exception.kraHttpStatus = some status → status = response.status
  | .other _ => ¬ errorRead response

/-- Whatever is read from an answer, the clauses let a `KraApiException` out and
nothing else. -/
theorem endsWell_of_accepted {accepted : HttpResponse → Prop}
    {read : HttpResponse → Except Raised HttpResponse}
    (acceptedOnly : ∀ response result, read response = .ok result →
      result = response ∧ accepted response) :
    EndsWell accepted transport
      ((exchange transport >>= read).mapError (caught platform transport)) := by
  have caughtAsKra : ∀ raised, ∃ exception, caught platform transport raised = .kraApi exception :=
    fun raised => by cases raised <;> exact ⟨_, rfl⟩
  cases transport with
  | failed message => exact caughtAsKra _
  | answered response =>
      by_cases httpFailed : 400 ≤ response.status
      · simp only [exchange, httpFailed, if_true]
        exact caughtAsKra _
      · simp only [exchange, httpFailed, if_false, ok_bind]
        cases outcome : read response with
        | error raised => exact caughtAsKra raised
        | ok result =>
            obtain ⟨rfl, isAccepted⟩ := acceptedOnly response result outcome
            exact ⟨rfl, Nat.lt_of_not_le httpFailed, isAccepted⟩

section Told

variable {errorRead : HttpResponse → Prop}

/-- An exception of the last clause has no code, and a status below 400. -/
theorem codesTell_generalError (message : String) (body : Option String)
    (notRead : ∀ response, transport = .answered response →
      response.status < 400 ∧ ¬ errorRead response) :
    CodesTell errorRead transport (.error (.kraApi (generalError message body))) := by
  rintro _ ⟨⟩
  rw [generalError_kraErrorCode, generalError_kraHttpStatus]
  refine ⟨⟨fun hasCode => by simp at hasCode, ?_⟩,
    fun status isFailure => ⟨fun given => ?_, ?_⟩⟩
  · rintro ⟨response, given, -, wasRead⟩
    exact ((notRead response given).2 wasRead).elim
  · have isZero : 0 = status := Option.some.inj given
    omega
  · rintro ⟨response, given, rfl⟩
    have below := (notRead response given).1
    omega

theorem codesTell_httpError {response : HttpResponse} (httpFailed : 400 ≤ response.status) :
    CodesTell errorRead (.answered response) (.error (.kraApi (httpError platform response))) := by
  rintro _ ⟨⟩
  rw [httpError_kraErrorCode, httpError_kraHttpStatus]
  refine ⟨⟨fun hasCode => by simp at hasCode, ?_⟩, fun status isFailure => ?_⟩
  · rintro ⟨_, ⟨⟩, below, -⟩
    omega
  · simp

/-- KRA's own error passes the clauses with its code. -/
theorem codesTell_kraApi {response : HttpResponse} {exception : KraApiException}
    (below : response.status < 400)
    (told : ErrorTold errorRead response (.kraApi exception)) :
    CodesTell errorRead (.answered response) (.error (.kraApi exception)) := by
  rintro _ ⟨⟩
  obtain ⟨wasRead, hasCode, sameStatus⟩ := told
  refine ⟨⟨fun _ => ⟨response, rfl, below, wasRead⟩, fun _ => hasCode⟩,
    fun status isFailure => ⟨fun given => ?_, ?_⟩⟩
  · have same := sameStatus status given
    omega
  · rintro ⟨_, ⟨⟩, rfl⟩
    omega

/-- The clauses add no error code and no status of 400 or more, the one of a
failed exchange apart. -/
theorem codesTell_of_errorTold {read : HttpResponse → Except Raised HttpResponse}
    (told : ∀ response raised, transport = .answered response →
      read response = .error raised → ErrorTold errorRead response raised) :
    CodesTell errorRead transport
      ((exchange transport >>= read).mapError (caught platform transport)) := by
  cases transport with
  | failed message => exact codesTell_generalError message none fun _ given => nomatch given
  | answered response =>
      by_cases httpFailed : 400 ≤ response.status
      · simp only [exchange, httpFailed, if_true]
        exact codesTell_httpError httpFailed
      · have below : response.status < 400 := Nat.lt_of_not_le httpFailed
        simp only [exchange, httpFailed, if_false, ok_bind]
        cases outcome : read response with
        | ok result => exact fun exception raised => nomatch raised
        | error inner =>
            have innerTold := told response inner rfl outcome
            cases inner with
            | request failed => exact innerTold.elim
            | kraApi thrown => exact codesTell_kraApi below innerTold
            | other message =>
                refine codesTell_generalError message (some response.body) ?_
                rintro _ ⟨⟩
                exact ⟨below, innerTold⟩

end Told

theorem readXml_accepted {response result : HttpResponse}
    (accepted : readXml platform response = .ok result) :
    result = response ∧ XmlAccepted platform response := by
  unfold readXml at accepted
  split at accepted
  next => cases accepted
  next parsed loaded =>
    split at accepted
    next => cases accepted
    next notError =>
      cases accepted
      exact ⟨rfl, parsed, loaded, notError⟩

theorem readXml_told {response : HttpResponse} {raised : Raised}
    (rejected : readXml platform response = .error raised) :
    ErrorTold (XmlErrorRead platform) response raised := by
  unfold readXml at rejected
  split at rejected
  next unreadable =>
    cases rejected
    rintro ⟨parsed, loaded, -⟩
    rw [unreadable] at loaded
    cases loaded
  next parsed loaded =>
    split at rejected
    next isError =>
      cases rejected
      exact ⟨⟨parsed, loaded, isError⟩, rfl, fun status given => nomatch given⟩
    next => cases rejected

theorem readJson_accepted {response result : HttpResponse}
    (accepted : readJson jsonDecode response = .ok result) :
    result = response ∧ JsonAccepted jsonDecode response := by
  unfold readJson at accepted
  split at accepted
  next => cases accepted
  next parsed decoded =>
    split at accepted
    next missing =>
      cases accepted
      exact ⟨rfl, parsed, decoded, .inl missing⟩
    next isNull =>
      cases accepted
      exact ⟨rfl, parsed, decoded, .inr (.inl isNull)⟩
    next isZeros =>
      cases accepted
      exact ⟨rfl, parsed, decoded, .inr (.inr isZeros)⟩
    next =>
      dsimp only at accepted
      split at accepted <;> cases accepted

theorem interpolate_of_plain {value : Value} (plain : IsPlain (some value)) :
    ∃ text, interpolate value = some text := by
  cases value <;> first | exact ⟨_, rfl⟩ | exact plain.elim

theorem plain_coalesce {value fallback : Value} {key : String}
    (plain : IsPlain (value.index key)) (plainFallback : IsPlain (some fallback)) :
    IsPlain (some (value.coalesce key fallback)) := by
  unfold Value.coalesce
  cases found : value.index key with
  | none => exact plainFallback
  | some inner =>
      rw [found] at plain
      cases inner <;> first | exact plain | exact plain.elim

theorem readJson_told {response : HttpResponse} {raised : Raised}
    (plain : PlainResult jsonDecode response)
    (rejected : readJson jsonDecode response = .error raised) :
    ErrorTold (JsonErrorRead jsonDecode) response raised := by
  unfold readJson at rejected
  split at rejected
  next invalid =>
    cases rejected
    rintro ⟨parsed, decoded, -⟩
    rw [invalid] at decoded
    cases decoded
  next parsed decoded =>
    obtain ⟨plainCd, plainMsg⟩ := plain parsed decoded
    split at rejected
    next => cases rejected
    next => cases rejected
    next => cases rejected
    next resultCd notNull notZeros present =>
      rw [present] at plainCd
      obtain ⟨code, codeText⟩ := interpolate_of_plain plainCd
      have plainText : IsPlain
          (some (parsed.coalesce "resultMsg" (.str "No specific message."))) :=
        plain_coalesce plainMsg trivial
      obtain ⟨text, messageText⟩ := interpolate_of_plain plainText
      dsimp only at rejected
      rw [codeText, messageText] at rejected
      cases rejected
      have notSuccess : ¬ IsSuccess (parsed.index "resultCd") := by
        rw [present]
        rintro (isNone | isNull | isZeros)
        · cases isNone
        · exact notNull (Option.some.inj isNull)
        · exact notZeros (Option.some.inj isZeros)
      exact ⟨⟨parsed, decoded, notSuccess⟩, rfl, fun status given => (Option.some.inj given).symm⟩

end Discipline

/-- With simulation off a command ends with an answer that passed every check or
with a `KraApiException`, whose code and status tell KRA's own error and a failed
exchange from everything else. -/
theorem exception_discipline (platform : Platform) (jsonDecode : String → Option Value)
    (simulate : String → List (String × Value) → Except Throwable HttpResponse) (api : KraApi)
    (live : api.simulation = none) (endpoint : String) (xmlPayload : KraXml)
    (jsonPayload : List (String × Value)) (isStrictTimeout : Bool) (transport : Transport) :
    let xmlOutcome :=
      sendCommand platform api endpoint xmlPayload isStrictTimeout fun _ => transport
    let jsonOutcome :=
      sendJsonCommand platform jsonDecode simulate api endpoint jsonPayload isStrictTimeout
        fun _ => transport
    EndsWell (XmlAccepted platform) transport xmlOutcome ∧
      CodesTell (XmlErrorRead platform) transport xmlOutcome ∧
      EndsWell (JsonAccepted jsonDecode) transport jsonOutcome ∧
      ((∀ response, transport = .answered response → PlainResult jsonDecode response) →
        CodesTell (JsonErrorRead jsonDecode) transport jsonOutcome) := by
  have xmlTry : sendCommand platform api endpoint xmlPayload isStrictTimeout
      (fun _ => transport) =
        (exchange transport >>= readXml platform).mapError (caught platform transport) := by
    simp only [sendCommand, live]
  have jsonTry : sendJsonCommand platform jsonDecode simulate api endpoint jsonPayload
      isStrictTimeout (fun _ => transport) =
        (exchange transport >>= readJson jsonDecode).mapError (caught platform transport) := by
    simp [sendJsonCommand, live]
  dsimp only
  rw [xmlTry, jsonTry]
  refine ⟨?_, ?_, ?_, fun plain => ?_⟩
  · exact endsWell_of_accepted fun _ _ => readXml_accepted
  · exact codesTell_of_errorTold fun _ _ _ => readXml_told
  · exact endsWell_of_accepted fun _ _ => readJson_accepted
  · exact codesTell_of_errorTold fun response _ given => readJson_told (plain response given)

theorem exception_discipline_sandbox :
    let transport := Transport.answered ⟨200, "\x7b\"resultCd\":\"001\"\x7d"⟩
    let jsonOutcome :=
      sendJsonCommand (platformReading [])
        (fun _ => some (.arr [(.str "resultCd", .str "001")])) (fun _ _ => .ok ⟨200, ""⟩)
        KraApi.sandbox "/selectInitOsdcInfo" [] false fun _ => transport
    KraApi.sandbox.simulation = none ∧
      CodesTell (JsonErrorRead fun _ => some (.arr [(.str "resultCd", .str "001")])) transport
        jsonOutcome :=
  ⟨rfl, (exception_discipline (platformReading [])
    (fun _ => some (.arr [(.str "resultCd", .str "001")])) (fun _ _ => .ok ⟨200, ""⟩)
    KraApi.sandbox rfl "/selectInitOsdcInfo" ⟨"", "", []⟩ [] false
    (.answered ⟨200, "\x7b\"resultCd\":\"001\"\x7d"⟩)).2.2.2
    (by
      rintro response - parsed ⟨⟩
      exact ⟨trivial, trivial⟩)⟩

end TaxGateway.Services.KraClient
