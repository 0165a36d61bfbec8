import HermesSentinel.Domain.Telemetry
import HermesSentinel.Foundation.Dictionary
import HermesSentinel.Python.IsoFormat

namespace HermesSentinel
namespace Heartbeat

open Python
open Domain
open Foundation

/-!
# Heartbeat payloads

The payload a caller hands over is an object of its own: a mapping may yield
something else each time it is read, repeat a key, or raise.  It is read once,
into a plain dictionary, and everything after that looks at the dictionary.
-/

/-- A key of a dictionary, of equal keys the one that was first.  Only strings
equal strings. -/
inductive Key
  | str (value : PyStr)
  | int (value : Int)
  /-- Another object, with what `str()` makes of it. -/
  | other (identity : Nat) (shown : Fallible PyStr)
  deriving DecidableEq

/-- A stable value.  A list, `None` and every object that is not a mapping are
alike to the decoder. -/
inductive Value
  | str (value : PyStr)
  | bool (value : Bool)
  | number (value : Number)
  | other
  | mapping (entries : List (Key × Value))

mutual

inductive Payload
  | str (value : PyStr)
  | bool (value : Bool)
  | number (value : Number)
  | other
  /-- A mapping, with what each successive pass over its items yields. -/
  | mapping (reads : Nat -> Reading)

/-- One pass over `items()`. -/
inductive Reading
  | stop
  | raises (e : Raised)
  | item (key : Key) (value : Payload) (rest : Reading)

end

/-- The flag set by `except Exception`, and the error raised behind it. -/
def sanitizeSnapshot : Fallible (Dictionary Key Value) -> Fallible Value
  | .ok entries => .ok (.mapping entries)
  | .error e =>
      if e.kind.isException = true then
        raise .malformedHeartbeatPayloadError
          "payload must be a deterministically readable JSON object"
      else .error e

mutual

/-- `_snapshot_value`.  The interpreter's stack has room for `stack` levels. -/
def snapshotValue (stack : Nat) : Payload -> Fallible Value
  | .mapping reads =>
      match stack with
      | 0 => raise .recursionError "maximum recursion depth exceeded"
      | stack + 1 => sanitizeSnapshot (snapshotItems stack [] (reads 0))
  | .str value => .ok (.str value)
  | .bool value => .ok (.bool value)
  | .number value => .ok (.number value)
  | .other => .ok .other

/-- The dictionary comprehension over the items. -/
def snapshotItems (stack : Nat) (snapshot : Dictionary Key Value) :
    Reading -> Fallible (Dictionary Key Value)
  | .stop => .ok snapshot
  | .raises e => .error e
  | .item key value rest => do
      let value ← snapshotValue stack value
      snapshotItems stack (Dictionary.assign key value snapshot) rest

end

/-- `_snapshot_payload`, to which `_snapshot_value` hands the mappings. -/
def snapshotPayload (stack : Nat) : Payload -> Fallible Value
  | .mapping reads => snapshotValue stack (.mapping reads)
  | _ => raise .malformedHeartbeatPayloadError "payload must be a JSON object"

def malformed {α : Type} (message : String) : Fallible α :=
  raise .malformedHeartbeatPayloadError message

def requireMapping (name : String) : Value -> Fallible (Dictionary Key Value)
  | .mapping entries => .ok entries
  | _ => malformed s!"{name} must be a JSON object"

def fieldKey (field : String) : Key :=
  .str (text field)

/-- `_TOP_LEVEL_FIELDS`, sorted. -/
def topLevelFields : List String :=
  ["cpu_percent", "load", "node", "ram", "reported_at", "root_fs", "root_inodes", "swap",
    "uptime_seconds"]

/-- `_LOAD_FIELDS`, sorted. -/
def loadFields : List String :=
  ["fifteen", "five", "one"]

/-- `_RESOURCE_FIELDS`, sorted. -/
def resourceFields : List String :=
  ["percent", "total", "used"]

/-- The default of `sys.get_int_max_str_digits()`. -/
def maxStrDigits : Nat := 4300

/-- `str(key)`. -/
def showKey : Key -> Fallible PyStr
  | .str value => .ok value
  | .int value =>
      if value.natAbs < 10 ^ maxStrDigits then
        .ok (if value < 0 then codePoint '-' :: decimal value.natAbs else decimal value.natAbs)
      else raise .valueError "Exceeds the limit (4300 digits) for integer string conversion"
  | .other _ shown => shown

def missingFields (entries : Dictionary Key Value) (required : List String) : List String :=
  required.filter fun field => (Dictionary.get entries (fieldKey field)).isNone

def unexpectedKeys (entries : Dictionary Key Value) (required : List String) : List Key :=
  (entries.map Prod.fst).filter fun key => decide (key ∉ required.map fieldKey)

/-- The error that names the unknown keys, once each of them has been shown. -/
def unknownFields (name : String) (unexpected : List Key) : Fallible Unit := do
  let shown ← unexpected.mapM showKey
  .error {
    kind := .malformedHeartbeatPayloadError
    message := s!"{name} contains unknown field(s): "
    names := shown.insertionSort (· ≤ ·) }

/-- The set of the unknown keys yields them in the order of the entries, which
decides nothing else. -/
def requireExactKeys (name : String) (entries : Dictionary Key Value) (required : List String) :
    Fallible Unit := do
  let missing := missingFields entries required
  let listed := ", ".intercalate missing
  ensure .malformedHeartbeatPayloadError (missing = [])
    s!"{name} is missing mandatory field(s): {listed}"
  let unexpected := unexpectedKeys entries required
  if unexpected = [] then .ok () else unknownFields name unexpected

/-- `mapping[field]`. -/
def getItem (entries : Dictionary Key Value) (field : String) : Fallible Value :=
  match Dictionary.get entries (fieldKey field) with
  | some value => .ok value
  | none => raise .keyError field

def requireNode (name : String) : Value -> Fallible PyStr
  | .str value => do
      ensure .malformedHeartbeatPayloadError (isBlank value = false)
        s!"{name} must be a non-empty string after strip()"
      .ok value
  | _ => malformed s!"{name} must be a string"

/-- `float(value)`. -/
def toFloat : Number -> Fallible PyFloat
  | .int value => PyFloat.ofExact value
  | .float value => .ok value

def requireNumber (name : String) : Value -> Fallible PyFloat
  | .number value =>
      match toFloat value with
      | .ok result => do
          ensure .malformedHeartbeatPayloadError (result.isFinite = true)
            s!"{name} must be a finite JSON number"
          .ok result
      | .error _ => malformed s!"{name} must be a finite JSON number"
  | _ => malformed s!"{name} must be a JSON number"

section

variable (reader : IsoReader)

def requireReportedAt (name : String) : Value -> Fallible DateTime
  | .str value =>
      match reader.fromisoformat value with
      | some parsed => do
          ensure .malformedHeartbeatPayloadError (parsed.isAware = true)
            s!"{name} must be timezone-aware"
          .ok parsed
      | none => malformed s!"{name} must be a valid ISO 8601 datetime"
  | _ => malformed s!"{name} must be an ISO 8601 datetime string"

def decodeLoad (name : String) (value : Value) : Fallible LoadAverage := do
  let mapping ← requireMapping name value
  requireExactKeys name mapping loadFields
  let one ← getItem mapping "one"
  let one ← requireNumber s!"{name}.one" one
  let five ← getItem mapping "five"
  let five ← requireNumber s!"{name}.five" five
  let fifteen ← getItem mapping "fifteen"
  let fifteen ← requireNumber s!"{name}.fifteen" fifteen
  LoadAverage.make { one, five, fifteen }

def decodeResource (name : String) (value : Value) : Fallible ResourceUsage := do
  let mapping ← requireMapping name value
  requireExactKeys name mapping resourceFields
  let used ← getItem mapping "used"
  let used ← requireNumber s!"{name}.used" used
  let total ← getItem mapping "total"
  let total ← requireNumber s!"{name}.total" total
  let percent ← getItem mapping "percent"
  let percent ← requireNumber s!"{name}.percent" percent
  ResourceUsage.make { used, total, percent }

/-- `except ValueError`: a violated invariant of the domain is a decode failure. -/
def wrapDomainError {α : Type} : Fallible α -> Fallible α
  | .ok value => .ok value
  | .error e =>
      if e.kind.isValueError = true then malformed ("invalid telemetry value: " ++ e.message)
      else .error e

/-- The body of the `try` statement. -/
def decodeTelemetry (mapping : Dictionary Key Value) (node : PyStr) (reportedAt : DateTime)
    (uptimeSeconds cpuPercent : PyFloat) : Fallible HostTelemetry := do
  let load ← getItem mapping "load"
  let load ← decodeLoad "payload.load" load
  let ram ← getItem mapping "ram"
  let ram ← decodeResource "payload.ram" ram
  let swap ← getItem mapping "swap"
  let swap ← decodeResource "payload.swap" swap
  let rootFilesystem ← getItem mapping "root_fs"
  let rootFilesystem ← decodeResource "payload.root_fs" rootFilesystem
  let rootInodes ← getItem mapping "root_inodes"
  let rootInodes ← decodeResource "payload.root_inodes" rootInodes
  HostTelemetry.make {
    host := node, timestamp := reportedAt, uptimeSeconds, load, cpuPercent, ram, swap,
    rootFilesystem, rootInodes }

def decodeHeartbeatPayload (payload : Value) : Fallible HostTelemetry := do
  let mapping ← requireMapping "payload" payload
  requireExactKeys "payload" mapping topLevelFields
  let node ← getItem mapping "node"
  let node ← requireNode "payload.node" node
  let reportedAt ← getItem mapping "reported_at"
  let reportedAt ← requireReportedAt reader "payload.reported_at" reportedAt
  let uptimeSeconds ← getItem mapping "uptime_seconds"
  let uptimeSeconds ← requireNumber "payload.uptime_seconds" uptimeSeconds
  let cpuPercent ← getItem mapping "cpu_percent"
  let cpuPercent ← requireNumber "payload.cpu_percent" cpuPercent
  wrapDomainError (decodeTelemetry mapping node reportedAt uptimeSeconds cpuPercent)

end

def claimedNode (payload : Value) : Fallible PyStr := do
  let mapping ← requireMapping "payload" payload
  match Dictionary.get mapping (fieldKey "node") with
  | none => malformed "payload is missing mandatory field(s): node"
  | some node => requireNode "payload.node" node

/-- The payload, as read once, claims the node. -/
def Claims (stack : Nat) (payload : Payload) (node : PyStr) : Prop :=
  exists snapshot, snapshotPayload stack payload = .ok snapshot ∧ claimedNode snapshot = .ok node

end Heartbeat
end HermesSentinel
