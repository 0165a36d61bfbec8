import HermesSentinel.Foundation.SortedSet
import HermesSentinel.Heartbeat.Wire
import HermesSentinel.Settings.StrictJson
import HermesSentinel.Settings.Telegram

namespace HermesSentinel
namespace Settings

open Python
open Domain
open Foundation
open Heartbeat (NodeCredentials Key Value)

/-!
# The central settings

The loader reads the variables of an environment one by one, parses the JSON
documents among them strictly, and hands what they hold to the constructors of
the configuration values.
-/

/-- A refusal of the loader. -/
def refuse {α : Type} (message : String) : Fallible α :=
  raise .centralSettingsError message

/-- A refusal that shows names. -/
def refuseShowing {α : Type} (message : String) (names : List PyStr) : Fallible α :=
  .error { kind := .centralSettingsError, message := message, names := names }

/-- `", ".join(names)`. -/
def joined (names : List PyStr) : PyStr :=
  (text ", ").intercalate names

def jsonObject (path : String) : Json -> Fallible (Dictionary PyStr Json)
  | .object members => .ok members
  | _ => refuse s!"{path} must be a JSON object"

def jsonArray (path : String) : Json -> Fallible (List Json)
  | .array items => .ok items
  | _ => refuse s!"{path} must be a JSON array"

def jsonString (path : String) : Json -> Fallible PyStr
  | .str value => .ok value
  | _ => refuse s!"{path} must be a JSON string"

def jsonNumber (path : String) : Json -> Fallible Number
  | .int value => .ok (.int value)
  | .real literal =>
      let value := PyFloat.ofDecimal (Decimal.value literal)
      if value.isFinite = true then .ok (.float value)
      else refuse s!"{path} must be a finite JSON number"
  | _ => refuse s!"{path} must be a JSON number"

def jsonInt (path : String) : Json -> Fallible Int
  | .int value => .ok value
  | _ => refuse s!"{path} must be a JSON integer"

/-- The fields are given in sorted order. -/
def requireKnownKeys (path : String) (mapping : Dictionary PyStr Json) (required optional : List String) :
    Fallible Unit :=
  let missing := required.filter fun field => !mapping.keys.contains (text field)
  let unknown := sortedSet (mapping.keys.filter fun key =>
    !(required.map text).contains key && !(optional.map text).contains key)
  let listed := ", ".intercalate missing
  if missing ≠ [] then refuse s!"{path} is missing mandatory field(s): {listed}"
  else if unknown ≠ [] then
    refuseShowing s!"{path} contains unknown field(s)" [joined unknown]
  else .ok ()

/-- `mapping[field]`. -/
def getField (mapping : Dictionary PyStr Json) (field : String) : Fallible Json :=
  match mapping.get (text field) with
  | some value => .ok value
  | none => raise .keyError field

/-- The value of a field that may be missing. -/
def optionalField {α : Type} (mapping : Dictionary PyStr Json) (field : String)
    (read : Json -> Fallible α) : Fallible (Option α) :=
  match mapping.get (text field) with
  | none => .ok none
  | some value => do
      let read ← read value
      .ok (some read)

/-- `_HEARTBEAT_FIELDS`, sorted. -/
def heartbeatFields : List String :=
  ["expected_interval_seconds", "stale_after_seconds"]

def parseHeartbeat (path : String) (value : Json) : Fallible HeartbeatSettings := do
  let mapping ← jsonObject path value
  requireKnownKeys path mapping heartbeatFields []
  let rawExpected ← getField mapping "expected_interval_seconds"
  let expected ← jsonNumber s!"{path}.expected_interval_seconds" rawExpected
  let rawStaleAfter ← getField mapping "stale_after_seconds"
  let staleAfter ← jsonNumber s!"{path}.stale_after_seconds" rawStaleAfter
  accepted .centralSettingsError
    (HeartbeatSettings.make {
      expectedIntervalSeconds := expected
      staleAfterSeconds := staleAfter })
    path

/-- `_EXTERNAL_REQUIRED_FIELDS`, sorted. -/
def externalRequiredFields : List String :=
  ["tcp_host", "tcp_port"]

/-- `_EXTERNAL_OPTIONAL_FIELDS`, sorted. -/
def externalOptionalFields : List String :=
  ["down_confirmations", "recovery_confirmations", "timeout_seconds"]

/-- The keyword arguments, with the defaults of those not given. -/
def externalFields (tcpHost : PyStr) (tcpPort : Int) (timeout : Option Number)
    (down recovery : Option Int) : ExternalCheckSettingsFields :=
  let defaults : ExternalCheckSettingsFields := { tcpHost := tcpHost, tcpPort := tcpPort }
  { defaults with
    timeoutSeconds := timeout.getD defaults.timeoutSeconds
    downConfirmations := down.getD defaults.downConfirmations
    recoveryConfirmations := recovery.getD defaults.recoveryConfirmations }

def parseExternal (path : String) (value : Json) : Fallible ExternalCheckSettings := do
  let mapping ← jsonObject path value
  requireKnownKeys path mapping externalRequiredFields externalOptionalFields
  let rawHost ← getField mapping "tcp_host"
  let tcpHost ← jsonString s!"{path}.tcp_host" rawHost
  let rawPort ← getField mapping "tcp_port"
  let tcpPort ← jsonInt s!"{path}.tcp_port" rawPort
  let timeout ← optionalField mapping "timeout_seconds" (jsonNumber s!"{path}.timeout_seconds")
  let down ← optionalField mapping "down_confirmations" (jsonInt s!"{path}.down_confirmations")
  let recovery ← optionalField mapping "recovery_confirmations"
    (jsonInt s!"{path}.recovery_confirmations")
  accepted .centralSettingsError
    (ExternalCheckSettings.make (externalFields tcpHost tcpPort timeout down recovery)) path

/-- `_THRESHOLDS_FIELDS`, sorted. -/
def thresholdsFields : List String :=
  ["cpu_percent", "disk_percent", "inode_percent", "load5_max", "ram_percent", "swap_percent"]

/-- A load limit, where `null` disables the check. -/
def loadLimit (path : String) : Json -> Fallible (Option Number)
  | .null => .ok none
  | value => do
      let limit ← jsonNumber path value
      .ok (some limit)

def parseThresholds (path : String) (value : Json) : Fallible Thresholds := do
  let mapping ← jsonObject path value
  requireKnownKeys path mapping [] thresholdsFields
  let cpu ← optionalField mapping "cpu_percent" (jsonNumber s!"{path}.cpu_percent")
  let ram ← optionalField mapping "ram_percent" (jsonNumber s!"{path}.ram_percent")
  let swap ← optionalField mapping "swap_percent" (jsonNumber s!"{path}.swap_percent")
  let disk ← optionalField mapping "disk_percent" (jsonNumber s!"{path}.disk_percent")
  let inode ← optionalField mapping "inode_percent" (jsonNumber s!"{path}.inode_percent")
  let load ← optionalField mapping "load5_max" (loadLimit s!"{path}.load5_max")
  let defaults : ThresholdsFields := {}
  accepted .centralSettingsError
    (Thresholds.make {
      cpuPercent := cpu.getD defaults.cpuPercent
      ramPercent := ram.getD defaults.ramPercent
      swapPercent := swap.getD defaults.swapPercent
      diskPercent := disk.getD defaults.diskPercent
      inodePercent := inode.getD defaults.inodePercent
      load5Max := load.getD defaults.load5Max })
    path

/-- The array elements from an index on. -/
def parseItems {α : Type} (parse : String -> Json -> Fallible α) (path : String) :
    Nat -> List Json -> Fallible (List α)
  | _, [] => .ok []
  | index, item :: rest => do
      let parsed ← parse s!"{path}[{index}]" item
      let parsedRest ← parseItems parse path (index + 1) rest
      .ok (parsed :: parsedRest)

def parseServices (path : String) (value : Json) : Fallible (List PyStr) := do
  let items ← jsonArray path value
  parseItems jsonString path 0 items

/-- `_HOST_REQUIRED_FIELDS`, sorted. -/
def hostRequiredFields : List String :=
  ["external", "heartbeat", "name"]

/-- `_HOST_OPTIONAL_FIELDS`, sorted. -/
def hostOptionalFields : List String :=
  ["services", "thresholds"]

/-- The thresholds given, or `Thresholds()`. -/
def thresholdsOrDefault : Option Thresholds -> Fallible Thresholds
  | some thresholds => .ok thresholds
  | none => Thresholds.make {}

def parseHost (path : String) (value : Json) : Fallible HostConfig := do
  let mapping ← jsonObject path value
  requireKnownKeys path mapping hostRequiredFields hostOptionalFields
  let rawName ← getField mapping "name"
  let name ← jsonString s!"{path}.name" rawName
  let rawHeartbeat ← getField mapping "heartbeat"
  let heartbeat ← parseHeartbeat s!"{path}.heartbeat" rawHeartbeat
  let rawExternal ← getField mapping "external"
  let external ← parseExternal s!"{path}.external" rawExternal
  let given ← optionalField mapping "thresholds" (parseThresholds s!"{path}.thresholds")
  let thresholds ← thresholdsOrDefault given
  let services ← optionalField mapping "services" (parseServices s!"{path}.services")
  accepted .centralSettingsError
    (HostConfig.make {
      name := name
      heartbeat := heartbeat
      external := external
      thresholds := thresholds
      services := services.getD [] })
    path

/-! ## The variables -/

def databasePathVar : String := "SENTINEL_DATABASE_PATH"
def listenHostVar : String := "SENTINEL_LISTEN_HOST"
def listenPortVar : String := "SENTINEL_LISTEN_PORT"
def monitorIntervalVar : String := "SENTINEL_MONITOR_INTERVAL_SECONDS"
def pollIntervalVar : String := "SENTINEL_POLL_INTERVAL_SECONDS"
def hostsJsonVar : String := "SENTINEL_HOSTS_JSON"
def nodeTokensJsonVar : String := "SENTINEL_NODE_TOKENS_JSON"
def botTokenVar : String := "SENTINEL_TELEGRAM_BOT_TOKEN"
def chatIdVar : String := "SENTINEL_TELEGRAM_CHAT_ID"
def threadIdVar : String := "SENTINEL_TELEGRAM_MESSAGE_THREAD_ID"
def timeoutVar : String := "SENTINEL_TELEGRAM_TIMEOUT_SECONDS"

def loadConfig (interpreter : Interpreter) (env : Snapshot) : Fallible SentinelConfig := do
  let raw ← requiredNonEmptyString .centralSettingsError env hostsJsonVar
  let document ← loadJsonDocument interpreter hostsJsonVar raw
  let entries ← jsonArray hostsJsonVar document
  let hosts ← parseItems parseHost hostsJsonVar 0 entries
  accepted .centralSettingsError (SentinelConfig.make { hosts := hosts }) hostsJsonVar

/-- The loop over the values of the credentials. -/
def requireStringTokens : Dictionary PyStr Json -> Fallible Unit
  | [] => .ok ()
  | (_, .str _) :: rest => requireStringTokens rest
  | _ :: _ =>
      refuse (nodeTokensJsonVar ++ " values must all be strings (node name -> secret token)")

/-- The names of the credentials must be those of the hosts. -/
def requireSameNodes (configured nodes : List PyStr) : Fallible Unit :=
  let missing := sortedSet (configured.filter fun name => !nodes.contains name)
  let unknown := sortedSet (nodes.filter fun name => !configured.contains name)
  let subject := nodeTokensJsonVar ++
    " credential node names must match the configured host names exactly "
  if missing ≠ [] ∧ unknown ≠ [] then
    refuseShowing
      (subject ++ "(no credential for configured host(s); credential for unknown host(s))")
      [joined missing, joined unknown]
  else if missing ≠ [] then
    refuseShowing (subject ++ "(no credential for configured host(s))") [joined missing]
  else if unknown ≠ [] then
    refuseShowing (subject ++ "(credential for unknown host(s))") [joined unknown]
  else .ok ()

/-- A value of the document as the constructor of the credentials sees it. -/
def credentialValue : Json -> Value
  | .str token => .str token
  | _ => .other

def credentialItems (mapping : Dictionary PyStr Json) : List (Key × Value) :=
  mapping.map fun entry => (.str entry.1, credentialValue entry.2)

def loadCredentials (interpreter : Interpreter) (env : Snapshot) (config : SentinelConfig) :
    Fallible NodeCredentials := do
  let raw ← requiredNonEmptyString .centralSettingsError env nodeTokensJsonVar
  let document ← loadJsonDocument interpreter nodeTokensJsonVar raw
  let mapping ← jsonObject nodeTokensJsonVar document
  requireStringTokens mapping
  requireSameNodes (config.hosts.map fun host => host.name) mapping.keys
  accepted .centralSettingsError (NodeCredentials.make (credentialItems mapping)) nodeTokensJsonVar

def loadListenPort (interpreter : Interpreter) (env : Snapshot) : Fallible Int := do
  let raw ← requiredNonEmptyString .centralSettingsError env listenPortVar
  let port ← parseDecimalInt .centralSettingsError interpreter.digitLimit listenPortVar raw
  if 1 ≤ port ∧ port ≤ 65535 then .ok port
  else
    .error {
      kind := .centralSettingsError
      message := listenPortVar ++ " must be within [1, 65535]"
      numbers := [.int port] }

def loadPositiveInterval (env : Snapshot) (name : String) : Fallible PyFloat := do
  let raw ← requiredNonEmptyString .centralSettingsError env name
  parsePositiveFloat .centralSettingsError name raw

/-- The keyword arguments, with the default of the timeout where none is given. -/
def telegramFields (botToken : PyStr) (chatId : Int) (threadId : Option Int)
    (timeout : Option PyFloat) : TelegramFields :=
  let defaults : TelegramFields :=
    { botToken := botToken, chatId := chatId, messageThreadId := threadId }
  { defaults with timeoutSeconds := (timeout.map Number.float).getD defaults.timeoutSeconds }

def loadTelegram (interpreter : Interpreter) (env : Snapshot) : Fallible TelegramSettings := do
  let botToken ← requiredNonEmptyString .centralSettingsError env botTokenVar
  let chatRaw ← requiredNonEmptyString .centralSettingsError env chatIdVar
  let chatId ← parseDecimalInt .centralSettingsError interpreter.digitLimit chatIdVar chatRaw
  let threadId ← optionalParsed .centralSettingsError env threadIdVar
    (parseDecimalInt .centralSettingsError interpreter.digitLimit threadIdVar)
  let timeout ← optionalParsed .centralSettingsError env timeoutVar
    (parsePositiveFloat .centralSettingsError timeoutVar)
  accepted .centralSettingsError
    (TelegramSettings.make (telegramFields botToken chatId threadId timeout)) "TelegramSettings"

structure CentralSettings where
  config : SentinelConfig
  credentials : NodeCredentials
  telegram : TelegramSettings
  databasePath : PyStr
  listenHost : PyStr
  listenPort : Int
  monitorIntervalSeconds : PyFloat
  pollIntervalSeconds : PyFloat

def loadCentralSettings (interpreter : Interpreter) (env : EnvironmentMapping) :
    Fallible CentralSettings := do
  let snapshot ← takeSnapshot .centralSettingsError env
  let databasePath ← requiredNonEmptyString .centralSettingsError snapshot databasePathVar
  let listenHost ← requiredNonEmptyString .centralSettingsError snapshot listenHostVar
  let listenPort ← loadListenPort interpreter snapshot
  let monitorIntervalSeconds ← loadPositiveInterval snapshot monitorIntervalVar
  let pollIntervalSeconds ← loadPositiveInterval snapshot pollIntervalVar
  let config ← loadConfig interpreter snapshot
  let telegram ← loadTelegram interpreter snapshot
  let credentials ← loadCredentials interpreter snapshot config
  .ok {
    config := config
    credentials := credentials
    telegram := telegram
    databasePath := databasePath
    listenHost := listenHost
    listenPort := listenPort
    monitorIntervalSeconds := monitorIntervalSeconds
    pollIntervalSeconds := pollIntervalSeconds }

end Settings
end HermesSentinel
