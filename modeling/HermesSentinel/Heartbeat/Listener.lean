import HermesSentinel.Heartbeat.Http

namespace HermesSentinel
namespace Heartbeat

open Python
open Domain
open Foundation

/-!
# The central listener

`handleOneRequest` serves one connection from where the stdlib parser is done
with the request line and the headers: the expectation hook, the dispatch with
its framing rules, and the emission of one response.

The handler's state holds the bytes that can still be read from the peer and
what was sent to it.  The stdlib sends neither a status line nor headers to a
peer that speaks HTTP/0.9.
-/

/-- What the stdlib parser makes of a request line and headers. -/
structure ParsedRequest where
  command : PyStr
  path : PyStr
  requestVersion : PyStr
  headers : List (PyStr × PyStr)

/-- What became of a connection before the dispatch. -/
inductive Incoming
  /-- Closed or blank: no request at all. -/
  | nothing
  /-- Refused by the parser, which then calls `send_error`. -/
  | refused (requestVersion : PyStr) (status : Nat)
  | parsed (request : ParsedRequest)

inductive Sent
  | statusLine (status : Nat)
  | header (name value : PyStr)
  | endOfHeaders
  | body (bytes : List Utf8.Byte)
  deriving DecidableEq

structure HandlerState where
  requestVersion : PyStr
  received : List Utf8.Byte
  sent : List Sent
  closeConnection : Bool
  ingestion : IngestWorld

abbrev Handler (α : Type) := Program Raised HandlerState α

def silentVersion : PyStr := text "HTTP/0.9"

def send (part : Sent) : Handler Unit :=
  Program.update fun handler =>
    if handler.requestVersion = silentVersion then handler
    else { handler with sent := handler.sent ++ [part] }

def sendResponseOnly (status : Nat) : Handler Unit :=
  send (.statusLine status)

def sendHeader (name value : PyStr) : Handler Unit :=
  send (.header name value)

def sendHeaders : List (PyStr × PyStr) -> Handler Unit
  | [] => pure ()
  | (name, value) :: rest => do
      sendHeader name value
      sendHeaders rest

def endHeaders : Handler Unit :=
  send .endOfHeaders

/-- `self.wfile.write`, which no version silences. -/
def writeBody (bytes : List Utf8.Byte) : Handler Unit :=
  Program.update fun handler => { handler with sent := handler.sent ++ [.body bytes] }

def closeAfter : Handler Unit :=
  Program.update fun handler => { handler with closeConnection := true }

/-- `self.rfile.read(length)`, which may raise for a broken connection. -/
def readBody (broken : Option Raised) (length : Nat) : Handler (List Utf8.Byte) := do
  match broken with
  | some e => Program.interrupt e
  | none => do
      let handler ← Program.read
      Program.update fun handler => { handler with received := handler.received.drop length }
      pure (handler.received.take length)

/-- `_emit_b5_response`. -/
def emitOwnResponse (status : Nat) : Handler Unit := do
  closeAfter
  sendResponseOnly status
  sendHeader (text "Content-Length") (text "0")
  sendHeader (text "Connection") (text "close")
  endHeaders

/-- The overridden `send_error`: it speaks HTTP/1.1 whatever the peer does. -/
def sendError (status : Nat) : Handler Unit := do
  Program.update fun handler =>
    { handler with closeConnection := true, requestVersion := text "HTTP/1.1" }
  sendResponseOnly status
  sendHeader (text "Content-Length") (text "0")
  sendHeader (text "Connection") (text "close")
  endHeaders

/-- `_emit_response`. -/
def emitResponse (response : HttpResponse) : Handler Unit := do
  closeAfter
  sendResponseOnly response.status
  sendHeaders response.headers
  sendHeader (text "Connection") (text "close")
  if response.body ≠ [] then do
    sendHeader (text "Content-Length") (decimal response.body.length)
    endHeaders
    writeBody response.body
  else do
    Program.onlyIf
      (!response.headers.any fun header => decide (lower header.1 = text "content-length"))
      (sendHeader (text "Content-Length") (text "0"))
    endHeaders

/-- `headers.get_all(name)`; the empty list is `None`. -/
def getAll (headers : List (PyStr × PyStr)) (name : String) : List PyStr :=
  (headers.filter fun header => decide (lower header.1 = lower (text name))).map Prod.snd

/-- `_declared_length_status`. -/
def declaredLengthStatus (raw : PyStr) : Option Nat :=
  let maxText := decimal maxHeartbeatBodyBytes
  let significant := raw.dropWhile fun c => decide (c = codePoint '0')
  if significant = [] then none
  else if maxText.length < significant.length ∨
      (significant.length = maxText.length ∧ maxText < significant) then some 413
  else none

/-- `_content_length_or_none`; the error is the status of the `_FramingError`. -/
def contentLengthOrNone (headers : List (PyStr × PyStr)) : Except Nat (Option Nat) :=
  match getAll headers "Content-Length" with
  | [] => .ok none
  | [value] =>
      let raw := stripBy (fun c => decide (c = codePoint ' ' ∨ c = codePoint '\t')) value
      if raw = [] ∨ raw.any (fun c => !isDigit c) = true then .error 400
      else
        match declaredLengthStatus raw with
        | some status => .error status
        | none => .ok (some (decimalValue (raw.dropWhile fun c => decide (c = codePoint '0'))))
  | _ => .error 400

def isHeartbeatPost (request : ParsedRequest) : Bool :=
  decide (request.command = heartbeatMethod ∧ request.path = heartbeatPath)

/-- The declared length of a heartbeat body, or the status that refuses it. -/
def framing (headers : List (PyStr × PyStr)) : Except Nat Nat :=
  if getAll headers "Expect" ≠ [] then .error 417
  else if getAll headers "Transfer-Encoding" ≠ [] then .error 400
  else
    match contentLengthOrNone headers with
    | .error status => .error status
    | .ok none => .error 411
    | .ok (some length) => .ok length

/-- `_resolve_body`; the error is the status of the `_FramingError`. -/
def resolveBody (broken : Option Raised) (request : ParsedRequest) :
    Handler (Except Nat (List Utf8.Byte)) := do
  if isHeartbeatPost request = false then pure (.ok [])
  else
    match framing request.headers with
    | .error status => pure (.error status)
    | .ok 0 => pure (.ok [])
    | .ok length => do
        let body ← readBody broken length
        if body.length ≠ length then pure (.error 400) else pure (.ok body)

/-- `HttpRequest(method=self.command, path=self.path, headers=headers, body=body)`. -/
def ParsedRequest.toHttpRequest (request : ParsedRequest) (body : List Utf8.Byte) : HttpRequest where
  method := .typed request.command
  path := .typed request.path
  headers := .typed (request.headers.map fun header => .pair (.typed header.1) (.typed header.2))
  body := .typed body

/-- The call of the adapter; `none` is an exception mapped to 500. -/
def callAdapter (adapter : HeartbeatHttpAdapter) (storage : Fallible Unit) (request : HttpRequest) :
    Handler (Option HttpResponse) :=
  Program.handle
    (do
      let response ← Program.zoom HandlerState.ingestion
        (fun ingestion handler => { handler with ingestion := ingestion })
        (adapter.handle storage request)
      pure (some response))
    (fun e => if e.kind.isException = true then some (pure none) else none)

/-- What the listener is connected to. -/
structure Listener where
  adapter : HeartbeatHttpAdapter
  storage : Fallible Unit
  /-- What reading the body raises, if the connection breaks. -/
  broken : Option Raised

namespace Listener

/-- `_dispatch`. -/
def dispatch (listener : Listener) (request : ParsedRequest) : Handler Unit := do
  let body ← resolveBody listener.broken request
  match body with
  | .error status => emitOwnResponse status
  | .ok body => do
      let response ← callAdapter listener.adapter listener.storage (request.toHttpRequest body)
      match response with
      | none => emitOwnResponse 500
      | some response => emitResponse response

/-- The parser's test before it calls `handle_expect_100`. -/
def expectsContinue (request : ParsedRequest) : Bool :=
  decide (lower ((getAll request.headers "Expect").headD []) = text "100-continue" ∧
    text "HTTP/1.1" ≤ request.requestVersion)

/-- `handle_expect_100`. -/
def handleExpect100 (request : ParsedRequest) : Handler Bool := do
  if isHeartbeatPost request = true then do
    emitOwnResponse 417
    pure false
  else pure true

/-- The end of the parser's work: whether the request is to be served. -/
def checkExpectation (request : ParsedRequest) : Handler Bool :=
  if expectsContinue request = true then handleExpect100 request else pure true

/-- `handle_one_request`. -/
def handleOneRequest (listener : Listener) (incoming : Incoming) : Handler Unit :=
  match incoming with
  | .nothing => closeAfter
  | .refused version status => do
      Program.update fun handler => { handler with requestVersion := version }
      sendError status
  | .parsed request => do
      Program.update fun handler => { handler with requestVersion := request.requestVersion }
      let continued ← checkExpectation request
      if continued = true then listener.dispatch request else pure ()

end Listener

end Heartbeat
end HermesSentinel
