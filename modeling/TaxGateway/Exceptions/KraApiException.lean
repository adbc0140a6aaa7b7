import TaxGateway.Foundations.LooseEquality
import TaxGateway.Services.KraClient

/-!
Contract: how a `KraApiException` answers the request it ends.

Owns:
- `render()`: the cases of its `switch`, the override by the HTTP status, and
  the JSON body;
- which answers of KRA end in an exception that is rendered as a success.

Does not own: the renderers of other throwables.
-/

namespace TaxGateway.Exceptions

open TaxGateway.Php
open TaxGateway.Services

/-- An answer of the gateway; `none` stands for a body that is not JSON. -/
structure ApiResponse where
  statusCode : Nat
  json : Option Value

/-- What `render()` reads besides the exception: the clock, the debug flag, the
table of status texts, and the trace id attached to the request. -/
structure RenderContext where
  now : String
  debug : Bool
  statusTexts : Nat → Option String
  traceId : Option String

def optionalText : Option String → Value
  | some text => .str text
  | none => .null

namespace KraApiException

/-! ## The switch -/

/-- Some `case` labels and the block they lead to. -/
structure ErrorCase where
  codes : List String
  statusCode : Nat
  gatewayErrorCode : String
  translatedMessage : String
  error : String

/-- The `case '00'` block. -/
def successCase : ErrorCase :=
  ⟨["00"], 200, "KRA_SUCCESS", "KRA operation successful.", "OK"⟩

/-- The other `case` blocks. -/
def failureCases : List ErrorCase :=
  [⟨["11", "12", "13", "20", "91", "99"], 500, "KRA_DEVICE_INTERNAL_ERROR",
      "KRA device internal error. Please contact KRA support with the Trace ID.",
      "Internal Server Error"⟩,
    ⟨["30", "31", "33", "34"], 400, "KRA_REQUEST_DATA_INVALID",
      "The request data sent to KRA was invalid or malformed. Please review input.",
      "Bad Request"⟩,
    ⟨["32"], 403, "KRA_INVALID_PIN",
      "The Taxpayer PIN provided is invalid or unauthorized for this operation with KRA.",
      "Forbidden"⟩,
    ⟨["40"], 412, "KRA_DEVICE_NOT_ACTIVATED",
      "The KRA device is not activated or initialized. Please complete device setup.",
      "Precondition Failed"⟩,
    ⟨["41"], 409, "KRA_DEVICE_ALREADY_ACTIVATED",
      "The KRA device is already activated. No action needed.", "Conflict"⟩,
    ⟨["42"], 401, "KRA_DEVICE_AUTH_FAILED",
      "Authentication failed with the KRA device. Gateway configuration error. " ++
        "Please contact support.",
      "Unauthorized"⟩,
    ⟨["90"], 503, "KRA_DEVICE_NETWORK_ERROR",
      "The KRA device has no internet connection. Please check device network.",
      "Service Unavailable"⟩]

/-- The `default` block, over the default values. -/
def defaultCase (message : String) : ErrorCase where
  codes := []
  statusCode := 500
  gatewayErrorCode := "KRA_API_ERROR"
  translatedMessage :=
    if (Value.str message).isEmpty then
      "An unexpected error occurred during KRA communication."
    else message
  error := "Internal Server Error"

/-- `$this->kraErrorCode == $code`. -/
def codeIs (kraErrorCode : Option String) (code : String) : Bool :=
  looseEq (optionalText kraErrorCode) code

/-- The block the `switch` takes: the first with a label that is loosely equal
to the error code. -/
def switch (exception : KraApiException) : ErrorCase :=
  ((successCase :: failureCases).find? fun errorCase =>
    errorCase.codes.any (codeIs exception.kraErrorCode)).getD (defaultCase exception.message)

/-! ## The answer -/

/-- The status of the answer, with its text: KRA's own from 400 on. -/
def renderedStatus (context : RenderContext) (exception : KraApiException) : Nat × String :=
  match exception.kraHttpStatus with
  | some status =>
      if 400 ≤ status then (status, (context.statusTexts status).getD "HTTP Error")
      else ((switch exception).statusCode, (switch exception).error)
  | none => ((switch exception).statusCode, (switch exception).error)

def details (context : RenderContext) (exception : KraApiException) : Value :=
  .arr [(.str "kraErrorCode", optionalText exception.kraErrorCode),
    (.str "kraRawResponse",
      if context.debug then optionalText exception.kraRawResponse else .null),
    (.str "kraHttpStatus",
      match exception.kraHttpStatus with
      | some status => .num status
      | none => .null)]

def render (context : RenderContext) (exception : KraApiException) : ApiResponse :=
  let status := renderedStatus context exception
  ⟨status.1, some (.arr
    [(.str "timestamp", .str context.now),
      (.str "status", .num status.1),
      (.str "error", .str status.2),
      (.str "message", .str (switch exception).translatedMessage),
      (.str "gatewayErrorCode", .str (switch exception).gatewayErrorCode),
      (.str "details", details context exception),
      (.str "traceId", optionalText context.traceId)])⟩

/-! ## Success -/

/-- The answer says that something went wrong. -/
def SaysFailure (response : ApiResponse) : Prop :=
  400 ≤ response.statusCode ∧
    (response.json.bind fun body => body.index "gatewayErrorCode") ≠
      some (.str "KRA_SUCCESS")

theorem index_gatewayErrorCode (context : RenderContext) (exception : KraApiException) :
    ((render context exception).json.bind fun body => body.index "gatewayErrorCode") =
      some (.str (switch exception).gatewayErrorCode) := rfl

/-- Every block but the first stands for a failure. -/
theorem failureCases_fail : ∀ errorCase ∈ failureCases,
    400 ≤ errorCase.statusCode ∧ errorCase.gatewayErrorCode ≠ "KRA_SUCCESS" := by
  decide

theorem defaultCase_fails (message : String) :
    400 ≤ (defaultCase message).statusCode ∧
      (defaultCase message).gatewayErrorCode ≠ "KRA_SUCCESS" := by
  simp [defaultCase]

theorem switch_of_zero {exception : KraApiException}
    (zero : codeIs exception.kraErrorCode "00" = true) : switch exception = successCase := by
  simp [switch, successCase, zero]

/-- A code that is not loosely `00` leads to a block that stands for a failure. -/
theorem switch_fails {exception : KraApiException}
    (nonzero : codeIs exception.kraErrorCode "00" = false) :
    400 ≤ (switch exception).statusCode ∧
      (switch exception).gatewayErrorCode ≠ "KRA_SUCCESS" := by
  have skipped : switch exception = (failureCases.find? fun errorCase =>
      errorCase.codes.any (codeIs exception.kraErrorCode)).getD
        (defaultCase exception.message) := by
    simp [switch, successCase, nonzero]
  rw [skipped]
  cases found : failureCases.find? fun errorCase =>
      errorCase.codes.any (codeIs exception.kraErrorCode) with
  | some errorCase => exact failureCases_fail errorCase (List.mem_of_find?_eq_some found)
  | none => exact defaultCase_fails exception.message

/-- An exception is rendered as a failure exactly when its code is not loosely
`00`. -/
theorem render_saysFailure_iff (context : RenderContext) (exception : KraApiException) :
    SaysFailure (render context exception) ↔ codeIs exception.kraErrorCode "00" = false := by
  constructor
  · intro failure
    by_contra isZero
    have zero : codeIs exception.kraErrorCode "00" = true := by simpa using isZero
    apply failure.2
    rw [index_gatewayErrorCode, switch_of_zero zero]
    rfl
  · intro nonzero
    obtain ⟨status, code⟩ := switch_fails nonzero
    refine ⟨?_, ?_⟩
    · show 400 ≤ (renderedStatus context exception).1
      unfold renderedStatus
      split
      next given _ =>
        split
        next isFailure => exact isFailure
        next => exact status
      next => exact status
    · rw [index_gatewayErrorCode]
      simpa using code

/-! ## The answers that end in a success -/

section Answers

variable (context : RenderContext)

/-- Every `KraApiException` a call ends with is rendered as a failure. -/
def RendersFailures (outcome : Except Thrown HttpResponse) : Prop :=
  ∀ exception, outcome = .error (.kraApi exception) →
    SaysFailure (render context exception)

/-- An XML answer with the status `E` and an error code that is loosely `00`. -/
def XmlTellsZero (platform : Platform) (transport : Transport) : Prop :=
  ∃ response parsed errorCode, transport = .answered response ∧ response.status < 400 ∧
    platform.simplexmlLoadString response.body = some parsed ∧
    KraApi.statusCode parsed = "E" ∧
    KraApi.dataChild? parsed "ErrorCode" = some errorCode ∧
    looseEqText errorCode.text "00" = true

/-- A JSON answer whose `resultCd` is no success for the client, and loosely
`00`. Both texts of the exception can be built. -/
def JsonTellsZero (jsonDecode : String → Option Value) (transport : Transport) : Prop :=
  ∃ response parsed resultCd code message, transport = .answered response ∧
    response.status < 400 ∧ jsonDecode response.body = some parsed ∧
    parsed.index "resultCd" = some resultCd ∧
    ¬ KraClient.IsSuccess (some resultCd) ∧
    KraClient.interpolate resultCd = some code ∧
    KraClient.interpolate (parsed.coalesce "resultMsg" (.str "No specific message.")) =
      some message ∧
    looseEqText code "00" = true

example : looseEqText (numberText (1 / 10 ^ 20)) "00" = false ∧
    looseEqText (numberText (1 / 10 ^ 400)) "00" = true := by
  decide +kernel

/-- `null` is no `case` label. -/
theorem codeIs_none : codeIs none "00" = false := rfl

theorem unknownError_not_zero : codeIs (some "UNKNOWN_KRA_ERROR") "00" = false := by
  decide +kernel

/-- A call renders its failures exactly when it throws no code that is loosely
`00`. -/
theorem rendersFailures_iff {outcome : Except Thrown HttpResponse} :
    RendersFailures context outcome ↔
      ¬ ∃ exception, outcome = .error (.kraApi exception) ∧
        codeIs exception.kraErrorCode "00" = true := by
  simp only [RendersFailures, render_saysFailure_iff, not_exists, not_and,
    Bool.not_eq_true]

variable {platform : Platform} {transport : Transport}

theorem statusError_kraErrorCode (parsed : Xml) (body : String) :
    (KraApi.statusError parsed body).kraErrorCode =
      some (((KraApi.dataChild? parsed "ErrorCode").map Xml.text).getD
        "UNKNOWN_KRA_ERROR") := rfl

theorem checkAnswer_zero_iff :
    (∃ exception, KraApi.checkAnswer platform transport = .error exception ∧
        codeIs exception.kraErrorCode "00" = true) ↔
      XmlTellsZero platform transport := by
  constructor
  · intro thrown
    obtain ⟨exception, thrown, zero⟩ := thrown
    have noCode : exception.kraErrorCode ≠ none := by
      intro none
      rw [none, codeIs_none] at zero
      contradiction
    unfold KraApi.checkAnswer at thrown
    split at thrown
    next =>
      obtain rfl := Except.error.inj thrown
      exact absurd rfl noCode
    next response =>
      split at thrown
      next =>
        obtain rfl := Except.error.inj thrown
        exact absurd rfl noCode
      next below =>
        split at thrown
        next =>
          obtain rfl := Except.error.inj thrown
          exact absurd rfl noCode
        next parsed loaded =>
          split at thrown
          next isError =>
            obtain rfl := Except.error.inj thrown
            rw [statusError_kraErrorCode] at zero
            cases found : KraApi.dataChild? parsed "ErrorCode" with
            | some errorCode =>
                rw [found] at zero
                exact ⟨response, parsed, errorCode, rfl, Nat.lt_of_not_le below, loaded,
                  isError, found, zero⟩
            | none =>
                rw [found] at zero
                exact absurd (unknownError_not_zero.symm.trans zero) (by simp)
          next => contradiction
  · intro told
    obtain ⟨response, parsed, errorCode, rfl, below, loaded, isError, found, zero⟩ := told
    have accepted : ¬ 400 ≤ response.status := by omega
    refine ⟨KraApi.statusError parsed response.body, ?_, ?_⟩
    · simp only [KraApi.checkAnswer, accepted, if_false, loaded, isError, if_true]
    · rw [statusError_kraErrorCode, found]
      exact zero

/-- The exceptions of a `resultCd`. -/
theorem readJson_eq_kraApi_iff {jsonDecode : String → Option Value} {response : HttpResponse}
    {exception : KraApiException} :
    KraClient.readJson jsonDecode response = .error (.kraApi exception) ↔
      ∃ parsed resultCd code message, jsonDecode response.body = some parsed ∧
        parsed.index "resultCd" = some resultCd ∧
        ¬ KraClient.IsSuccess (some resultCd) ∧
        KraClient.interpolate resultCd = some code ∧
        KraClient.interpolate (parsed.coalesce "resultMsg" (.str "No specific message.")) =
          some message ∧
        exception = KraClient.resultError code message response := by
  constructor
  · intro thrown
    unfold KraClient.readJson at thrown
    split at thrown
    next => cases thrown
    next parsed decoded =>
      split at thrown
      next => cases thrown
      next => cases thrown
      next => cases thrown
      next resultCd notNull notZeros present =>
        dsimp only at thrown
        split at thrown
        next code message codeText messageText =>
          obtain rfl := KraClient.Raised.kraApi.inj (Except.error.inj thrown)
          refine ⟨parsed, resultCd, code, message, decoded, present, ?_, codeText,
            messageText, rfl⟩
          intro isSuccess
          rcases isSuccess with isNone | isNull | isZeros
          · contradiction
          · exact notNull (Option.some.inj isNull)
          · exact notZeros (Option.some.inj isZeros)
        next => cases thrown
  · intro told
    obtain ⟨parsed, resultCd, code, message, decoded, present, notSuccess, codeText,
      messageText, rfl⟩ := told
    unfold KraClient.readJson
    rw [decoded]
    dsimp only
    rw [present]
    split
    next => contradiction
    next isNull => exact absurd (.inr (.inl isNull)) notSuccess
    next isZeros => exact absurd (.inr (.inr isZeros)) notSuccess
    next other notNull notZeros same =>
      obtain rfl := Option.some.inj same
      rw [codeText, messageText]

/-- The clauses add no code of their own. -/
theorem caught_kraErrorCode {raised : KraClient.Raised} {exception : KraApiException}
    (same : KraClient.caught platform transport raised = .kraApi exception) :
    exception.kraErrorCode = none ∨ raised = .kraApi exception := by
  cases raised with
  | request response =>
      obtain rfl := Thrown.kraApi.inj same
      exact .inl rfl
  | kraApi inner =>
      obtain rfl := Thrown.kraApi.inj same
      exact .inr rfl
  | other message =>
      obtain rfl := Thrown.kraApi.inj same
      exact .inl rfl

theorem readJson_zero_iff {jsonDecode : String → Option Value} :
    (∃ exception, (KraClient.exchange transport >>= KraClient.readJson jsonDecode).mapError
          (KraClient.caught platform transport) = .error (.kraApi exception) ∧
        codeIs exception.kraErrorCode "00" = true) ↔
      JsonTellsZero jsonDecode transport := by
  constructor
  · intro thrown
    obtain ⟨exception, thrown, zero⟩ := thrown
    have noCode : exception.kraErrorCode ≠ none := by
      intro none
      rw [none, codeIs_none] at zero
      contradiction
    cases outcome : KraClient.exchange transport >>= KraClient.readJson jsonDecode with
    | ok response =>
        rw [outcome] at thrown
        contradiction
    | error raised =>
        rw [outcome] at thrown
        have same : KraClient.caught platform transport raised = .kraApi exception :=
          Except.error.inj thrown
        obtain rfl := (caught_kraErrorCode same).resolve_left noCode
        cases transport with
        | failed message => cases outcome
        | answered response =>
            by_cases httpFailed : 400 ≤ response.status
            · simp only [KraClient.exchange, httpFailed, if_true] at outcome
              cases outcome
            · simp only [KraClient.exchange, httpFailed, if_false, ok_bind] at outcome
              obtain ⟨parsed, resultCd, code, message, decoded, present, notSuccess, codeText,
                messageText, rfl⟩ := readJson_eq_kraApi_iff.mp outcome
              exact ⟨response, parsed, resultCd, code, message, rfl, Nat.lt_of_not_le httpFailed,
                decoded, present, notSuccess, codeText, messageText, zero⟩
  · intro told
    obtain ⟨response, parsed, resultCd, code, message, rfl, below, decoded, present,
      notSuccess, codeText, messageText, zero⟩ := told
    have accepted : ¬ 400 ≤ response.status := by omega
    have read := readJson_eq_kraApi_iff.mpr ⟨parsed, resultCd, code, message, decoded, present,
      notSuccess, codeText, messageText, rfl⟩
    refine ⟨KraClient.resultError code message response, ?_, zero⟩
    simp only [KraClient.exchange, accepted, if_false, ok_bind, read]
    rfl

/-- A failure is rendered as a failure unless the answer tells an error code
that is loosely `00`. -/
theorem kra_failure_rendered_iff (platform : Platform)
    (jsonDecode : String → Option Value)
    (simulate : String → List (String × Value) → Except Throwable HttpResponse) (api : KraApi)
    (endpoint : String) (xmlPayload : KraXml) (jsonPayload : List (String × Value))
    (isStrictTimeout : Bool) (transport : Transport) :
    (RendersFailures context
        (KraClient.sendCommand platform api endpoint xmlPayload isStrictTimeout
          fun _ => transport) ↔
      ¬ (api.simulation = none ∧ XmlTellsZero platform transport)) ∧
    (RendersFailures context
        (KraClient.sendJsonCommand platform jsonDecode simulate api endpoint jsonPayload
          isStrictTimeout fun _ => transport) ↔
      ¬ (api.simulation = none ∧ JsonTellsZero jsonDecode transport)) := by
  rw [rendersFailures_iff, rendersFailures_iff, ← checkAnswer_zero_iff,
    ← @readJson_zero_iff platform transport jsonDecode]
  cases live : api.simulation with
  | some simulated =>
      -- What simulation mode throws is no exception of the KRA's.
      have plain : ∀ (outcome : Except Throwable HttpResponse) (exception : KraApiException),
          outcome.mapError Thrown.php ≠ .error (Thrown.kraApi exception) := by
        intro outcome exception
        cases outcome <;> simp [Except.mapError]
      simp [KraClient.sendCommand, KraClient.sendJsonCommand, live, plain]
  | none =>
      have thrown : ∀ exception,
          KraClient.sendCommand platform api endpoint xmlPayload isStrictTimeout
              (fun _ => transport) = .error (.kraApi exception) ↔
            KraApi.checkAnswer platform transport = .error exception := by
        intro exception
        rw [KraClient.sendCommand_eq, KraApi.sendCommand_live live]
        cases KraApi.checkAnswer platform transport <;> simp [Except.mapError]
      simp only [thrown, KraClient.sendJsonCommand, live, Option.isSome_none,
        Bool.false_eq_true, if_false, true_and]

/-- An answer with the `resultCd` `0`. -/
def zeroAnswer : HttpResponse :=
  ⟨200, "\x7b\"resultCd\":\"0\",\"resultMsg\":\"Internal error\"\x7d"⟩

def decodeZeroAnswer (body : String) : Option Value :=
  if body = zeroAnswer.body then
    some (.arr [(.str "resultCd", .str "0"), (.str "resultMsg", .str "Internal error")])
  else none

/-- It is no success for the client, and the exception is rendered as one. -/
theorem zero_resultCd_rendered_success :
    ¬ RendersFailures ⟨"2025-07-03T13:08:19.000000Z", false, fun _ => none, none⟩
      (KraClient.sendJsonCommand (KraApi.platformReading []) decodeZeroAnswer
        (fun _ _ => .ok zeroAnswer) KraApi.sandbox "/selectInitOsdcInfo" [] false
        fun _ => .answered zeroAnswer) := by
  rw [rendersFailures_iff, not_not]
  refine ⟨KraClient.resultError "0" "Internal error" zeroAnswer, ?_, by decide +kernel⟩
  decide +kernel

end Answers

end KraApiException

end TaxGateway.Exceptions
