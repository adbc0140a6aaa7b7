import TaxGateway.Foundations.Formats

/-!
Contract: the XML half of the KRA client.

Owns:
- `KraApiException` and the throwables the gateway's services end with;
- `buildKraXml` and `sendCommand`, with every error path of the latter.

Does not own: the HTTP transport (a parameter: one request in, an answer or a
failure out), the XML parser (`Platform.simplexmlLoadString`), the mock answers
of simulation mode (`KraApi.simulation`), or the JSON command.
-/

namespace TaxGateway.Services

open TaxGateway.Php

/-- An HTTP answer, whatever its status. -/
structure HttpResponse where
  status : Nat
  body : String
deriving DecidableEq, Repr

/-- What becomes of one HTTP exchange. `failed` is any throwable the HTTP
client raises itself: a timeout, a refused connection. -/
inductive Transport where
  | answered (response : HttpResponse)
  | failed (message : String)
deriving DecidableEq, Repr

structure KraApiException where
  message : String
  kraRawResponse : Option String
  kraErrorCode : Option String
  kraHttpStatus : Option Nat
deriving DecidableEq, Repr

/-- Everything a service method can throw. -/
inductive Thrown where
  | kraApi (exception : KraApiException)
  | php (throwable : Throwable)
deriving DecidableEq, Repr

namespace Thrown

def message : Thrown → String
  | .kraApi exception => exception.message
  | .php throwable => throwable.message

/-- `KraApiException` extends `\Exception`. -/
def isException : Thrown → Bool
  | .kraApi _ => true
  | .php throwable => throwable.isException

end Thrown

/-! ## Payloads -/

/-- The `SimpleXMLElement` built for a command. `data` lists the children of
`DATA` with the scalars whose string casts are their text. -/
structure KraXml where
  pin : String
  command : String
  data : List (String × Value)
deriving Repr

/-- The library code the services rely on. -/
structure Platform where
  /-- `simplexml_load_string`: `none` when the text is not well-formed. -/
  simplexmlLoadString : String → Option Xml
  /-- `SimpleXMLElement::asXML` of a command. -/
  asXML : KraXml → String
  /-- The text of the `RequestException` thrown for an answer of status 400 or
  above. -/
  requestExceptionMessage : HttpResponse → String

/-- Casting an array to a string raises a warning, hence an exception. -/
def buildKraXml (pin command : String) (data : List (String × Value)) :
    Except Throwable KraXml :=
  if data.any fun child => child.2.isArray then
    .error (.exception "Array to string conversion")
  else .ok ⟨pin, command, data⟩

theorem buildKraXml_eq_ok {pin command : String} {data : List (String × Value)}
    {xml : KraXml} :
    buildKraXml pin command data = .ok xml ↔
      (data.any fun child => child.2.isArray) = false ∧ xml = ⟨pin, command, data⟩ := by
  unfold buildKraXml
  split
  next hasArray => simp [hasArray]
  next noArray => simp [noArray, eq_comm]

/-! ## Sending -/

/-- The HTTP request `sendCommand` makes. -/
structure Outgoing where
  url : String
  payload : KraXml
  timeoutMs : Nat
deriving Repr

structure KraApi where
  baseUrl : String
  strictTimeoutMs : Nat
  generalTimeoutMs : Nat
  /-- `config('kra.simulation_mode')`: what `getSimulatedResponse` returns or throws for
  an endpoint and a payload when the mode is on. -/
  simulation : Option (String → KraXml → Except Throwable HttpResponse)

namespace KraApi

/-- `rtrim($baseUrl, '/') . '/' . ltrim($endpoint, '/')`. -/
def url (api : KraApi) (endpoint : String) : String :=
  let base := (api.baseUrl.toList.reverse.dropWhile (· = '/')).reverse
  String.ofList (base ++ '/' :: endpoint.toList.dropWhile (· = '/'))

/-- `(string) ($parsedXml->STATUS ?? 'UNKNOWN')`. -/
def statusCode (parsed : Xml) : String :=
  ((parsed.child? "STATUS").map Xml.text).getD "UNKNOWN"

/-- A child of the answer's `DATA` node, if both are there. -/
def dataChild? (parsed : Xml) (name : String) : Option Xml :=
  (parsed.child? "DATA").bind fun data => data.child? name

def httpError (platform : Platform) (response : HttpResponse) : KraApiException where
  message := "Failed to communicate with KRA API due to HTTP error: " ++
    platform.requestExceptionMessage response
  kraRawResponse := some response.body
  kraErrorCode := none
  kraHttpStatus := some response.status

def generalError (message : String) (responseBody : Option String) :
    KraApiException where
  message := "An unexpected error occurred during KRA API communication: " ++ message
  kraRawResponse := responseBody
  kraErrorCode := none
  kraHttpStatus := some 0

def invalidXmlMessage (body : String) : String :=
  if (Value.str body).isEmpty then "KRA response body is empty or unparseable XML."
  else "KRA response is not valid XML: " ++ body

def statusError (parsed : Xml) (body : String) : KraApiException :=
  let kraErrorCode :=
    ((dataChild? parsed "ErrorCode").map Xml.text).getD "UNKNOWN_KRA_ERROR"
  let detail :=
    ((dataChild? parsed "message").map Xml.text).getD "No specific message."
  { message := "KRA returned an error status: [" ++ kraErrorCode ++ "] " ++ detail
    kraRawResponse := some body
    kraErrorCode := some kraErrorCode
    kraHttpStatus := none }

/-- The checks made on the outcome of the HTTP exchange. Only the literal
status `E` is an error: any other text, or none at all, is accepted. -/
def checkAnswer (platform : Platform) : Transport → Except KraApiException HttpResponse
  | .failed message => .error (generalError message none)
  | .answered response =>
      if 400 ≤ response.status then .error (httpError platform response)
      else
        match platform.simplexmlLoadString response.body with
        | none =>
            .error (generalError (invalidXmlMessage response.body) (some response.body))
        | some parsed =>
            if statusCode parsed = "E" then .error (statusError parsed response.body)
            else .ok response

def sendCommand (platform : Platform) (api : KraApi) (endpoint : String)
    (xmlPayload : KraXml) (isStrictTimeout : Bool) (network : Outgoing → Transport) :
    Except Thrown HttpResponse :=
  match api.simulation with
  -- The mode is looked up before the `try` statement.
  | some simulate => (simulate endpoint xmlPayload).mapError .php
  | none =>
      let timeoutMs := if isStrictTimeout then api.strictTimeoutMs else api.generalTimeoutMs
      (checkAnswer platform (network ⟨api.url endpoint, xmlPayload, timeoutMs⟩)).mapError .kraApi

/-- An answer passes the checks exactly when it has an HTTP status below 400
and a well-formed body whose status is not `E`. -/
theorem checkAnswer_eq_ok_iff {platform : Platform} {transport : Transport}
    {response : HttpResponse} :
    checkAnswer platform transport = .ok response ↔
      transport = .answered response ∧ response.status < 400 ∧
        ∃ parsed, platform.simplexmlLoadString response.body = some parsed ∧
          statusCode parsed ≠ "E" := by
  cases transport with
  | failed message => simp [checkAnswer]
  | answered given =>
      by_cases httpFailed : 400 ≤ given.status
      · simp only [checkAnswer, httpFailed, if_true, reduceCtorEq, Transport.answered.injEq,
          false_iff, not_and]
        rintro rfl below
        omega
      · cases loaded : platform.simplexmlLoadString given.body with
        | none =>
            simp only [checkAnswer, httpFailed, if_false, loaded, reduceCtorEq,
              Transport.answered.injEq, false_iff, not_and, not_exists]
            rintro rfl - parsed
            simp [loaded]
        | some parsed =>
            by_cases isError : statusCode parsed = "E"
            · simp only [checkAnswer, httpFailed, if_false, loaded, isError, if_true,
                reduceCtorEq, Transport.answered.injEq, false_iff, not_and, not_exists]
              rintro rfl - other sameDocument
              rw [loaded] at sameDocument
              obtain rfl := Option.some.inj sameDocument
              exact not_not.mpr isError
            · simp only [checkAnswer, httpFailed, if_false, loaded, isError,
                Except.ok.injEq, Transport.answered.injEq]
              constructor
              · rintro rfl
                exact ⟨rfl, by omega, parsed, loaded, isError⟩
              · rintro ⟨rfl, -⟩
                rfl

theorem sendCommand_live {platform : Platform} {api : KraApi}
    (live : api.simulation = none) (endpoint : String) (xmlPayload : KraXml)
    (isStrictTimeout : Bool) (transport : Transport) :
    sendCommand platform api endpoint xmlPayload isStrictTimeout (fun _ => transport) =
      (checkAnswer platform transport).mapError .kraApi := by
  simp [sendCommand, live]

/-- An answer is returned exactly if it passes the checks. -/
theorem sendCommand_live_eq_ok_iff {platform : Platform} {api : KraApi}
    (live : api.simulation = none) {endpoint : String} {xmlPayload : KraXml}
    {isStrictTimeout : Bool} {transport : Transport} {response : HttpResponse} :
    sendCommand platform api endpoint xmlPayload isStrictTimeout (fun _ => transport) =
        .ok response ↔
      checkAnswer platform transport = .ok response := by
  rw [sendCommand_live live, mapError_eq_ok_iff]

/-! ## A client without simulation -/

def elementText (name text : String) : String :=
  "<" ++ name ++ ">" ++ text ++ "</" ++ name ++ ">"

/-- A platform that can parse the given documents. -/
def platformReading (documents : List (String × Xml)) : Platform where
  simplexmlLoadString body := documents.lookup body
  asXML xml :=
    let data := xml.data.map fun child =>
      elementText child.1 (child.2.toText.toOption.getD "")
    "<?xml version=\"1.0\"?>\n" ++
      elementText "root"
        (elementText "PIN" xml.pin ++ elementText "CMD" xml.command ++
          elementText "DATA" (data.foldr (· ++ ·) "")) ++ "\n"
  requestExceptionMessage response :=
    "HTTP request returned status code " ++ toString response.status

/-- The sandbox configuration. -/
def sandbox : KraApi :=
  ⟨"https://etims-api-sbx.kra.go.ke/etims-api/", 1000, 60000, none⟩

end KraApi

end TaxGateway.Services
