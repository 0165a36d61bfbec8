import HermesSentinel.Foundation.Program
import HermesSentinel.Python.Json
import HermesSentinel.Telegram.Message

namespace HermesSentinel
namespace Telegram

open Python
open Foundation
open Host
open DeadMan
open Settings

/-!
# One delivery attempt

The two senders follow one protocol and differ in the message, in the error
class and in the first words of its texts.  What the transport does is given in
advance: how the opener ends, and how reading and closing end for what it
acquired.  The log keeps the requests and the closes in order.

Of `json.loads` nothing is assumed but the three ways it can end.
-/

/-- What the transport raises.  `HTTPError` and `TimeoutError` are `OSError`s, so
`except (OSError, http.client.HTTPException)` catches every one. -/
inductive TransportError
  | httpError (code : Int)
  | timeoutError
  | osError
  | httpException

/-- How one exchange ends: a response with its status, body and close, or what
the opener raises.  An `HTTPError` of the opener is itself closed. -/
inductive Exchange
  | response (status : Int) (read : Except TransportError (List Utf8.Byte))
      (close : Option TransportError)
  | httpError (code : Int) (close : Option TransportError)
  | timeoutError
  | osError
  | httpException

inductive Resource
  | response
  | httpError
  deriving DecidableEq

inductive DeliveryEvent
  | opened (request : Request) (timeout : Number)
  | closed (resource : Resource)

abbrev DeliveryProgram (α : Type) := Program Raised (List DeliveryEvent) α

/-- `_RESPONSE_BODY_LIMIT_BYTES`. -/
def responseBodyLimitBytes : Nat := 8192

/-- What a module raises, and how its texts begin. -/
structure DeliveryModule where
  kind : ExceptionClass
  opening : String

def DeliveryModule.failure (m : DeliveryModule) (reason : String) : Raised where
  kind := m.kind
  message := m.opening ++ reason

def httpFailureReason (status : Int) : String :=
  if 300 ≤ status ∧ status < 400 then s!"unexpected redirect (HTTP {status})"
  else s!"HTTP status {status}"

section Protocol

variable (m : DeliveryModule)

/-- `_close_bounded_response`. -/
def closeBoundedResponse (resource : Resource) (close : Option TransportError)
    (failure : Option Raised) : DeliveryProgram (Option Raised) := do
  Program.update fun log => log ++ [.closed resource]
  match close, failure with
  | some _, none => pure (some (m.failure "response cleanup error"))
  | _, failure => pure failure

/-- `if failure is not None: raise failure`. -/
def raiseFailure : Option Raised -> DeliveryProgram Unit
  | none => pure ()
  | some failure => Program.interrupt failure

variable (scan : PyStr -> Json.Scanned Json)

/-- `json.loads(raw.decode("utf-8"))`. -/
def loadBody (raw : List Utf8.Byte) : Fallible Json :=
  match Utf8.decode .strict raw with
  | none => raise .unicodeDecodeError ""
  | some payload =>
      match scan payload with
      | .value document => .ok document
      | .malformed => raise .valueError "JSONDecodeError"
      | .tooDeep => raise .recursionError "maximum recursion depth exceeded"

/-- `document.get(key)`: of a repeated key the last value is there. -/
def getMember (members : List (PyStr × Json)) (key : PyStr) : Option Json :=
  members.reverse.lookup key

/-- `_classify_bounded_response`. -/
def classifyBoundedResponse (status : Int) (raw : List Utf8.Byte) : Fallible (Option Raised) :=
  if status ≠ 200 then .ok (some (m.failure (httpFailureReason status)))
  else if responseBodyLimitBytes < raw.length then
    .ok (some (m.failure "response body too large"))
  else
    match loadBody scan raw with
    | .error e =>
        if e.kind.isValueError = true then .ok (some (m.failure "malformed response body"))
        else .error e
    | .ok (.object members) =>
        match getMember members (text "ok") with
        | some (.bool true) => .ok none
        | _ => .ok (some (m.failure "response ok is not true"))
    | .ok _ => .ok (some (m.failure "malformed response body"))

/-- The failure of an acquired response before it is closed, if there is one. -/
def readBoundedResponse (status : Int) :
    Except TransportError (List Utf8.Byte) -> Fallible (Option Raised)
  | .error .timeoutError => .ok (some (m.failure "timed out"))
  | .error _ => .ok (some (m.failure "network error"))
  | .ok body => classifyBoundedResponse m scan status (body.take (responseBodyLimitBytes + 1))

/-- `send` once the request is built. -/
def attempt (timeout : Number) (exchange : Exchange) (request : Request) : DeliveryProgram Unit := do
  Program.update fun log => log ++ [.opened request timeout]
  match exchange with
  | .httpError code close => do
      let bounded ← closeBoundedResponse m .httpError close
        (some (m.failure (httpFailureReason code)))
      raiseFailure bounded
  | .timeoutError => Program.interrupt (m.failure "timed out")
  | .osError => Program.interrupt (m.failure "network error")
  | .httpException => Program.interrupt (m.failure "network error")
  | .response status read close => do
      let failure ← Program.lift (readBoundedResponse m scan status read)
      let failure ← closeBoundedResponse m .response close failure
      raiseFailure failure

/-- `send` of either module, given the rendered message. -/
def sendMessage (settings : TelegramFields) (exchange : Exchange) (message : PyStr) :
    DeliveryProgram Unit := do
  let request ← Program.lift (buildRequest settings message)
  attempt m scan settings.timeoutSeconds exchange request

end Protocol

namespace TelegramSender

/-- The error of `telegram.py`. -/
def delivery : DeliveryModule where
  kind := .telegramDeliveryError
  opening := "Telegram delivery failed: "

/-- `TelegramSender.send`. -/
def send (scan : PyStr -> Json.Scanned Json) (settings : TelegramSettings) (incident : Incident)
    (exchange : Exchange) : DeliveryProgram Unit :=
  sendMessage delivery scan settings.toTelegramFields exchange (renderIncidentMessage incident)

end TelegramSender

namespace DeadManTelegramSender

/-- The error of `deadman_telegram.py`. -/
def delivery : DeliveryModule where
  kind := .deadManTelegramDeliveryError
  opening := "Dead-man Telegram delivery failed: "

/-- `DeadManTelegramSender.send`. -/
def send (scan : PyStr -> Json.Scanned Json) (settings : DeadManTelegramSettings)
    (notification : DeadManNotification) (exchange : Exchange) : DeliveryProgram Unit :=
  sendMessage delivery scan settings.toTelegramFields exchange (renderDeadmanMessage notification)

end DeadManTelegramSender

end Telegram
end HermesSentinel
