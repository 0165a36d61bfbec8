import HermesSentinel.DeadMan.Machine
import HermesSentinel.Python.IsoFormat
import HermesSentinel.Python.Json

namespace HermesSentinel
namespace DeadMan

open Python
open Foundation

/-!
# The persisted document

`encodeDeadmanStatus` and `decodeDeadmanStatus` are the two codec functions of
the source, with the field names and messages they use.  A document is read in
two steps, as in the source: `json.loads` under the strict hooks, then the
checks of the decoder on the tree.

The texts of the timestamps are the only freedom a document has.  The
documents are therefore built by functions that take these texts as arguments,
and `statusDocument` is the document of a snapshot for one choice of them; the
encoder chooses the UTC texts.
-/

/-- `_SCHEMA_VERSION`. -/
def schemaVersion : Int := 4

def DeadManState.all : List DeadManState :=
  [.unknown, .up, .down]

def DeadManNotificationKind.all : List DeadManNotificationKind :=
  [.down, .recovered]

def transitionDocument (transition : DeadManTransition) (time : PyStr) : Json :=
  .object
    [(text "from_state", .str (text transition.fromState.value)),
      (text "to_state", .str (text transition.toState.value)),
      (text "at", .str time)]

def notificationDocument (notification : DeadManNotification) (time : PyStr) : Json :=
  .object
    [(text "notification_id", .int notification.notificationId),
      (text "kind", .str (text notification.kind.value)),
      (text "transition", transitionDocument notification.transition time)]

def timestampDocument : Option PyStr -> Json
  | none => .null
  | some time => .str time

def currentDownDocument : Option DeadManCurrentDown -> Json
  | none => .null
  | some current => .object
      [(text "notification_id", .int current.notificationId),
        (text "acknowledged", .bool current.acknowledged)]

/-- The document of a snapshot, for given texts of its timestamps. -/
def statusDocument (f : StatusFields) (anchor : Option PyStr) (times : List PyStr) : Json :=
  .object
    [(text "schema_version", .int schemaVersion),
      (text "state", .str (text f.state.value)),
      (text "consecutive_failures", .int f.consecutiveFailures),
      (text "consecutive_successes", .int f.consecutiveSuccesses),
      (text "state_changed_at", timestampDocument anchor),
      (text "pending_notifications",
        .array (List.zipWith notificationDocument f.pendingNotifications times)),
      (text "next_notification_id", .int f.nextNotificationId),
      (text "current_down", currentDownDocument f.currentDown)]

def encodeDatetime (value : DateTime) : Fallible PyStr := do
  let wall ← value.astimezoneUtc
  .ok (isoformat wall)

def encodeAnchor : Option DateTime -> Fallible (Option PyStr)
  | none => .ok none
  | some value => do
      let time ← encodeDatetime value
      .ok (some time)

def encodeTimes : List DeadManNotification -> Fallible (List PyStr)
  | [] => .ok []
  | notification :: rest => do
      let time ← encodeDatetime notification.transition.confirmedAt
      let times ← encodeTimes rest
      .ok (time :: times)

/-- `json.dumps(document, sort_keys=True, separators=(",", ":"))`. -/
def dumpsSorted (document : Json) : PyStr :=
  Json.render (Json.sortKeys document)

/-- The dictionary that `encode_deadman_status` hands to `json.dumps`. -/
def encodeDocument (status : DeadManStatus) : Fallible Json := do
  let anchor ← encodeAnchor status.stateChangedAt
  let times ← encodeTimes status.pendingNotifications
  .ok (statusDocument status.toStatusFields anchor times)

def encodeDeadmanStatus (status : DeadManStatus) : Fallible PyStr := do
  let document ← encodeDocument status
  .ok (dumpsSorted document)

def decodeFailure {α : Type} (message : String) : Fallible α :=
  raise .deadManStateDecodeError message

/-- `mapping[key]`. -/
def item (members : List (Text × Json)) (key : String) : Fallible Json :=
  match members.lookup (text key) with
  | some value => .ok value
  | none => raise .keyError key

def requireExactKeys (name : String) (members : List (Text × Json)) (fields : List Text) :
    Fallible Unit :=
  if Json.keys members ⊆ fields ∧ fields ⊆ Json.keys members then .ok ()
  else decodeFailure s!"{name} must contain exactly the fields"

def stateFields : List Text :=
  [text "schema_version", text "state", text "consecutive_failures", text "consecutive_successes",
    text "state_changed_at", text "pending_notifications", text "next_notification_id",
    text "current_down"]

def transitionFields : List Text :=
  [text "from_state", text "to_state", text "at"]

def notificationFields : List Text :=
  [text "notification_id", text "kind", text "transition"]

def currentDownFields : List Text :=
  [text "notification_id", text "acknowledged"]

def decodeStateValue (name : String) : Json -> Fallible DeadManState
  | .str value =>
      match DeadManState.all.find? fun state => decide (text state.value = value) with
      | some state => .ok state
      | none => decodeFailure s!"{name} is not a known dead-man state"
  | _ => decodeFailure s!"{name} must be a string"

def decodeNotificationKind (name : String) : Json -> Fallible DeadManNotificationKind
  | .str value =>
      match DeadManNotificationKind.all.find? fun kind => decide (text kind.value = value) with
      | some kind => .ok kind
      | none => decodeFailure s!"{name} is not a known notification kind"
  | _ => decodeFailure s!"{name} must be a string"

/-- `_decode_counter` and `_decode_notification_id` differ in their bound. -/
def decodeInteger (least : Int) (name : String) : Json -> Fallible Int
  | .int value =>
      if value < least then decodeFailure s!"{name} must be >= {least}" else .ok value
  | _ => decodeFailure s!"{name} must be a JSON integer"

def decodeCounter : String -> Json -> Fallible Int :=
  decodeInteger 0

def decodeNotificationId : String -> Json -> Fallible Int :=
  decodeInteger 1

def decodeBool (name : String) : Json -> Fallible Bool
  | .bool value => .ok value
  | _ => decodeFailure s!"{name} must be a JSON boolean"

def decodeDatetime (reader : IsoReader) (name : String) : Json -> Fallible DateTime
  | .str value =>
      match reader.fromisoformat value with
      | none => decodeFailure s!"{name} must be a valid ISO 8601 datetime"
      | some parsed =>
          if parsed.isAware = true then .ok parsed
          else decodeFailure s!"{name} must be timezone-aware"
  | _ => decodeFailure s!"{name} must be an ISO 8601 datetime string"

def decodeOptionalDatetime (reader : IsoReader) (name : String) : Json -> Fallible (Option DateTime)
  | .null => .ok none
  | value => do
      let parsed ← decodeDatetime reader name value
      .ok (some parsed)

/-- The `except` clauses around a constructor call: decoding errors pass, a
`ValueError` of the constructor becomes one. -/
def wrapInvalid {α : Type} (what : String) (call : Fallible α) : Fallible α :=
  match call with
  | .ok value => .ok value
  | .error e =>
      if e.kind = .deadManStateDecodeError then .error e
      else if e.kind.isValueError = true then decodeFailure s!"invalid persisted {what}: {e.message}"
      else .error e

def decodeTransition (reader : IsoReader) (name : String) : Json -> Fallible DeadManTransition
  | .object members => do
      requireExactKeys name members transitionFields
      wrapInvalid "dead-man transition" do
        let fromState ← item members "from_state"
        let fromState ← decodeStateValue s!"{name}.from_state" fromState
        let toState ← item members "to_state"
        let toState ← decodeStateValue s!"{name}.to_state" toState
        let confirmedAt ← item members "at"
        let confirmedAt ← decodeDatetime reader s!"{name}.at" confirmedAt
        DeadManTransition.make fromState toState confirmedAt
  | _ => decodeFailure s!"{name} must be a JSON object"

def decodeNotification (reader : IsoReader) (name : String) :
    Json -> Fallible DeadManNotification
  | .object members => do
      requireExactKeys name members notificationFields
      let kind ← item members "kind"
      let kind ← decodeNotificationKind s!"{name}.kind" kind
      let transition ← item members "transition"
      let transition ← decodeTransition reader s!"{name}.transition" transition
      wrapInvalid "dead-man notification" do
        let notificationId ← item members "notification_id"
        let notificationId ← decodeNotificationId s!"{name}.notification_id" notificationId
        DeadManNotification.make notificationId kind transition
  | _ => decodeFailure s!"{name} must be a JSON object"

/-- The elements of the array from an index on. -/
def decodeElements (reader : IsoReader) (name : String) :
    Nat -> List Json -> Fallible (List DeadManNotification)
  | _, [] => .ok []
  | index, element :: rest => do
      let notification ← decodeNotification reader s!"{name}[{index}]" element
      let notifications ← decodeElements reader name (index + 1) rest
      .ok (notification :: notifications)

def decodeNotifications (reader : IsoReader) (name : String) :
    Json -> Fallible (List DeadManNotification)
  | .array elements => decodeElements reader name 0 elements
  | _ => decodeFailure s!"{name} must be a JSON array"

def decodeCurrentDown (name : String) : Json -> Fallible (Option DeadManCurrentDown)
  | .null => .ok none
  | .object members => do
      requireExactKeys name members currentDownFields
      wrapInvalid "current-outage binding" do
        let notificationId ← item members "notification_id"
        let notificationId ← decodeNotificationId s!"{name}.notification_id" notificationId
        let acknowledged ← item members "acknowledged"
        let acknowledged ← decodeBool s!"{name}.acknowledged" acknowledged
        let current ← DeadManCurrentDown.make notificationId acknowledged
        .ok (some current)
  | _ => decodeFailure s!"{name} must be a JSON object or null"

/-- `isinstance(version, int) and version == _SCHEMA_VERSION`; a JSON boolean
is no integer here. -/
def checkVersion (version : Json) : Fallible Unit :=
  match version with
  | .int value =>
      if value = schemaVersion then .ok () else decodeFailure "unsupported dead-man state schema_version"
  | _ => decodeFailure "unsupported dead-man state schema_version"

/-- The part of the decoder after `json.loads`. -/
def decodeDocument (reader : IsoReader) : Json -> Fallible DeadManStatus
  | .object members => do
      requireExactKeys "dead-man state" members stateFields
      let version ← item members "schema_version"
      checkVersion version
      wrapInvalid "dead-man state" do
        let state ← item members "state"
        let state ← decodeStateValue "state" state
        let failures ← item members "consecutive_failures"
        let failures ← decodeCounter "consecutive_failures" failures
        let successes ← item members "consecutive_successes"
        let successes ← decodeCounter "consecutive_successes" successes
        let anchor ← item members "state_changed_at"
        let anchor ← decodeOptionalDatetime reader "state_changed_at" anchor
        let pending ← item members "pending_notifications"
        let pending ← decodeNotifications reader "pending_notifications" pending
        let next ← item members "next_notification_id"
        let next ← decodeNotificationId "next_notification_id" next
        let current ← item members "current_down"
        let current ← decodeCurrentDown "current_down" current
        DeadManStatus.make {
          state := state, consecutiveFailures := failures, consecutiveSuccesses := successes,
          stateChangedAt := anchor, pendingNotifications := pending, nextNotificationId := next,
          currentDown := current }
  | _ => decodeFailure "persisted dead-man state must be a JSON object"

def deadManHooks : StrictHooks where
  duplicateKey := "duplicate object key"
  nonFinite := "non-finite JSON constant"

def decodeDeadmanStatus (scanner : JsonScanner) (reader : IsoReader) (payload : PyStr) :
    Fallible DeadManStatus :=
  match loads scanner deadManHooks payload with
  | .ok document => decodeDocument reader document
  | .error e =>
      if e.kind.isValueError = true ∨ e.kind = .recursionError then
        decodeFailure s!"malformed persisted dead-man state JSON: {e.message}"
      else .error e

end DeadMan
end HermesSentinel
