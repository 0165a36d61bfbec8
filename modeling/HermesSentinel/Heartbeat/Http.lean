import HermesSentinel.Foundation.Decimal
import HermesSentinel.Heartbeat.Wire
import HermesSentinel.Python.Json

namespace HermesSentinel
namespace Heartbeat

open Python
open Domain
open Foundation

/-!
# The HTTP adapter

A request is checked in a fixed order, the first failed check deciding the
response; what is left is a JSON object and a token, which the wire adapter
gets.  Nothing before the wire adapter looks at the configuration, so the
checks are a function of the request alone.

The attributes of a request need not have their annotated types.
-/

/-- The value of an attribute: of the annotated type, or some other object. -/
inductive Attribute (α : Type)
  | typed (value : α)
  | other
  deriving DecidableEq

/-- An element of the headers: a 2-tuple, or some other object. -/
inductive HeaderEntry
  | pair (name value : Attribute PyStr)
  | other
  deriving DecidableEq

structure HttpRequest where
  method : Attribute PyStr
  path : Attribute PyStr
  headers : Attribute (List HeaderEntry)
  body : Attribute (List Utf8.Byte)
  deriving DecidableEq

structure HttpResponse where
  status : Nat
  headers : List (PyStr × PyStr)
  body : List Utf8.Byte
  deriving DecidableEq

def heartbeatPath : PyStr :=
  text "/v1/heartbeat"

def heartbeatMethod : PyStr :=
  text "POST"

def maxHeartbeatBodyBytes : Nat := 16384

/-- `_response`. -/
def respond (status : Nat) (extraHeaders : List (PyStr × PyStr)) : HttpResponse where
  status := status
  headers := (text "Content-Length", text "0") :: extraHeaders
  body := []

/-- The hooks of the adapter; their texts never leave it. -/
def httpHooks : StrictHooks where
  duplicateKey := "duplicate JSON object key"
  nonFinite := "non-finite JSON constants are rejected"

/-- `_decode_strict_json`: the members of the object, unless the body is no
strict JSON object. -/
def decodeStrictJson (scan : PyStr -> Json.Scanned Json) (body : List Utf8.Byte) :
    Option (List (Text × Json)) :=
  match Utf8.decode .strict body with
  | none => none
  | some decoded =>
      match loadsBy scan httpHooks decoded with
      | .ok (.object members) => some members
      | .ok _ => none
      -- `ValueError` and `RecursionError`, the only exceptions of the parser
      | .error _ => none

mutual

/-- A parsed document as an object: its dictionaries read the same every time. -/
def ofJson : Json -> Payload
  | .object members => .mapping fun _ => ofMembers members
  | .str value => .str value
  | .bool value => .bool value
  | .int value => .number (.int value)
  | .real literal => .number (.float (PyFloat.ofDecimal (Decimal.value literal)))
  | .null => .other
  | .constant _ => .other
  | .array _ => .other

def ofMembers : List (Text × Json) -> Reading
  | [] => .stop
  | (key, value) :: rest => .item (.str key) (ofJson value) (ofMembers rest)

end

/-- Not a visible ASCII character. -/
def isInvisible (c : CodePoint) : Bool :=
  decide (c.val ≤ 32 ∨ 127 ≤ c.val)

def isMalformedMediaType (token : PyStr) : Bool :=
  let stripped := strip token
  stripped.isEmpty || decide (stripped.count (codePoint '/') ≠ 1) || stripped.any isInvisible

/-- The loop over the parameters of a JSON media type. -/
def parametersRejection (sawCharset : Bool) : List PyStr -> Option Nat
  | [] => none
  | parameter :: rest =>
      let token := strip parameter
      let parts := partition (codePoint '=') token
      if token = [] ∨ parts.2.1 = false then some 400
      else
        let name := lower (strip parts.1)
        let charset := lower (strip parts.2.2)
        if name = [] ∨ charset = [] then some 400
        else if name ≠ text "charset" then some 415
        else if sawCharset = true then some 400
        else if charset ≠ text "utf-8" then some 415
        else parametersRejection true rest

/-- The status that refuses a Content-Type value, if it is refused. -/
def contentTypeRejection (value : PyStr) : Option Nat :=
  let pieces := split (codePoint ';') value
  let mediaType := pieces.headD []
  if isMalformedMediaType mediaType = true then some 400
  else if lower (strip mediaType) ≠ text "application/json" then some 415
  else parametersRejection false pieces.tail

def headerValues (headers : List (PyStr × PyStr)) (name : String) : List PyStr :=
  (headers.filter fun header => decide (lower header.1 = text name)).map Prod.snd

def isMalformedHeaderName (name : PyStr) : Bool :=
  name.isEmpty || name.any isInvisible

def isMalformedHeaderValue (value : PyStr) : Bool :=
  value.any fun c => decide ((c.val < 32 ∧ c.val ≠ 9) ∨ c.val = 127)

/-- The request with every attribute of its annotated type. -/
structure StructuredRequest where
  method : PyStr
  path : PyStr
  headers : List (PyStr × PyStr)
  body : List Utf8.Byte

def structuredHeaders : List HeaderEntry -> Option (List (PyStr × PyStr))
  | [] => some []
  | .pair (.typed name) (.typed value) :: rest =>
      if isMalformedHeaderName name = true ∨ isMalformedHeaderValue value = true then none
      else (structuredHeaders rest).map fun headers => (name, value) :: headers
  | _ => none

/-- `not _has_malformed_structure(request)`, with the request it then is. -/
def structured (request : HttpRequest) : Option StructuredRequest :=
  match request.method, request.path, request.body, request.headers with
  | .typed method, .typed path, .typed body, .typed entries =>
      (structuredHeaders entries).map fun headers => { method, path, headers, body }
  | _, _, _, _ => none

/-- The interpreter's scanner belongs to the adapter. -/
structure HeartbeatHttpAdapter where
  wire : AuthenticatedHeartbeatAdapter
  scan : PyStr -> Json.Scanned Json

def refuseIf (condition : Prop) [Decidable condition] (response : HttpResponse) :
    Except HttpResponse Unit :=
  if condition then .error response else .ok ()

/-- The only value of a header, or the response to anything else. -/
def onlyValue (repeated absent : HttpResponse) : List PyStr -> Except HttpResponse PyStr
  | [] => .error absent
  | [value] => .ok value
  | _ => .error repeated

def checkContentType (value : PyStr) : Except HttpResponse Unit :=
  match contentTypeRejection value with
  | some status => .error (respond status [])
  | none => .ok ()

def parseBody (scan : PyStr -> Json.Scanned Json) (body : List Utf8.Byte) :
    Except HttpResponse (List (Text × Json)) :=
  match decodeStrictJson scan body with
  | some members => .ok members
  | none => .error (respond 400 [])

/-- The checks before the wire adapter, and what they leave. -/
def inspect (scan : PyStr -> Json.Scanned Json) (request : StructuredRequest) :
    Except HttpResponse (List (Text × Json) × PyStr) := do
  refuseIf (request.path ≠ heartbeatPath) (respond 404 [])
  refuseIf (request.method ≠ heartbeatMethod) (respond 405 [(text "Allow", heartbeatMethod)])
  refuseIf (maxHeartbeatBodyBytes < request.body.length) (respond 413 [])
  refuseIf (request.body = []) (respond 400 [])
  let contentType ← onlyValue (respond 400 []) (respond 415 [])
    (headerValues request.headers "content-type")
  checkContentType contentType
  let token ← onlyValue (respond 401 []) (respond 401 [])
    (headerValues request.headers "x-sentinel-token")
  let members ← parseBody scan request.body
  .ok (members, token)

/-- What the two `except` clauses make of an exception. -/
def wireFailure (e : Raised) : Option HttpResponse :=
  match e.kind with
  | .malformedHeartbeatPayloadError => some (respond 400 [])
  | .heartbeatAuthenticationError => some (respond 401 [])
  | _ => none

namespace HeartbeatHttpAdapter

/-- The `try` statement around the wire adapter. -/
def forward (adapter : HeartbeatHttpAdapter) (storage : Fallible Unit)
    (members : List (Text × Json)) (token : PyStr) : Program Raised IngestWorld HttpResponse :=
  Program.handle
    (do
      let _ ← adapter.wire.handle storage (ofJson (.object members)) (.str token)
      pure (respond 204 []))
    (fun e => (wireFailure e).map fun response => pure response)

def handle (adapter : HeartbeatHttpAdapter) (storage : Fallible Unit) (request : HttpRequest) :
    Program Raised IngestWorld HttpResponse :=
  match structured request with
  | none => pure (respond 400 [])
  | some wellFormed =>
      match inspect adapter.scan wellFormed with
      | .error response => pure response
      | .ok (members, token) => adapter.forward storage members token

end HeartbeatHttpAdapter

end Heartbeat
end HermesSentinel
