import HermesSentinel.Settings.Central

namespace HermesSentinel
namespace Settings

open Python
open Domain
open Foundation

/-!
# The dead-man settings

The loader of the dead-man switch reads the probe, the state file and the
Telegram settings.  The standard library's URL parser is a parameter.
-/

/-- The parts of a URL.  Reading the port raises a `ValueError` with a text of its own. -/
structure SplitUrl where
  scheme : PyStr
  netloc : PyStr
  hostname : Option PyStr
  fragment : PyStr
  port : Except PyStr (Option Nat)

/-- `urllib.parse.urlsplit`, with the text of its `ValueError`. -/
abbrev UrlParser := PyStr -> Except PyStr SplitUrl

/-- A refusal that shows a text. -/
def invalidUrl {α : Type} (message : String) (shown : PyStr) : Fallible α :=
  .error { kind := .valueError, message := message, names := [shown] }

def isUrlControl (c : CodePoint) : Bool :=
  isSpace c || decide (c.val < 0x20) || decide (c.val = 0x7F)

def requireSplitUrl (split : SplitUrl) : Fallible Unit := do
  if split.scheme ≠ text "https" then
    invalidUrl "probe URL must use HTTPS, got scheme" split.scheme
  else do
    require (split.hostname.getD [] ≠ []) "probe URL must carry a non-empty host in its authority"
    require (split.fragment = []) "probe URL must not carry a fragment"
    require (codePoint '@' ∉ split.netloc)
      "probe URL must not carry credentials (userinfo): the dead-man probe is unauthenticated"
    match split.port with
    | .ok _ => .ok ()
    | .error detail => invalidUrl "invalid probe URL port" detail

def requireHttpsUrl (urlsplit : UrlParser) (url : PyStr) : Fallible Unit := do
  require (url ≠ []) "url must be a non-empty string"
  require (url.any isUrlControl = false) "url must not contain whitespace or control characters"
  match urlsplit url with
  | .ok split => requireSplitUrl split
  | .error detail => invalidUrl "invalid probe URL" detail

structure DeadManProbeFields where
  url : PyStr
  timeoutSeconds : Number := .float (.finite 10)
  deriving DecidableEq

def DeadManProbeFields.postInit (urlsplit : UrlParser) (f : DeadManProbeFields) : Fallible Unit := do
  requireHttpsUrl urlsplit f.url
  requirePositive "timeout_seconds" f.timeoutSeconds

structure DeadManProbeSettings (urlsplit : UrlParser) extends DeadManProbeFields where
  accepted : toDeadManProbeFields.postInit urlsplit = .ok ()

def DeadManProbeSettings.make (urlsplit : UrlParser) (fields : DeadManProbeFields) :
    Fallible (DeadManProbeSettings urlsplit) :=
  construct (DeadManProbeFields.postInit urlsplit)
    (fun f accepted => { f with accepted := accepted }) fields

/-- The keyword arguments, with the default of the timeout where none is given. -/
def probeFields (url : PyStr) (timeout : Option PyFloat) : DeadManProbeFields :=
  let defaults : DeadManProbeFields := { url := url }
  { defaults with timeoutSeconds := (timeout.map Number.float).getD defaults.timeoutSeconds }

/-- A `pathlib.Path` made of a string. -/
structure PyPath where
  raw : PyStr
  deriving DecidableEq

/-- The store keeps the path and touches nothing. -/
structure DeadManStateStore where
  path : PyPath
  deriving DecidableEq

def deadManProbeUrlVar : String := "HERMES_SENTINEL_DEADMAN_PROBE_URL"
def deadManStatePathVar : String := "HERMES_SENTINEL_DEADMAN_STATE_PATH"
def deadManBotTokenVar : String := "HERMES_SENTINEL_DEADMAN_TELEGRAM_BOT_TOKEN"
def deadManChatIdVar : String := "HERMES_SENTINEL_DEADMAN_TELEGRAM_CHAT_ID"
def deadManThreadIdVar : String := "HERMES_SENTINEL_DEADMAN_TELEGRAM_THREAD_ID"
def deadManProbeTimeoutVar : String := "HERMES_SENTINEL_DEADMAN_PROBE_TIMEOUT_SECONDS"
def deadManTelegramTimeoutVar : String := "HERMES_SENTINEL_DEADMAN_TELEGRAM_TIMEOUT_SECONDS"

def loadProbeSettings (urlsplit : UrlParser) (env : Snapshot) :
    Fallible (DeadManProbeSettings urlsplit) := do
  let url ← requiredNonEmptyString .deadManSettingsError env deadManProbeUrlVar
  let timeout ← optionalParsed .deadManSettingsError env deadManProbeTimeoutVar
    (parsePositiveFloat .deadManSettingsError deadManProbeTimeoutVar)
  accepted .deadManSettingsError (DeadManProbeSettings.make urlsplit (probeFields url timeout))
    "DeadManProbeSettings"

def loadStore (env : Snapshot) : Fallible (PyPath × DeadManStateStore) := do
  let raw ← requiredNonEmptyString .deadManSettingsError env deadManStatePathVar
  let path ← accepted .deadManSettingsError (.ok (PyPath.mk raw)) "DeadManStateStore"
  let store ← accepted .deadManSettingsError (.ok (DeadManStateStore.mk path)) "DeadManStateStore"
  .ok (path, store)

def loadTelegramSettings (interpreter : Interpreter) (env : Snapshot) :
    Fallible DeadManTelegramSettings := do
  let botToken ← requiredNonEmptyString .deadManSettingsError env deadManBotTokenVar
  let chatRaw ← requiredNonEmptyString .deadManSettingsError env deadManChatIdVar
  let chatId ← parseDecimalInt .deadManSettingsError interpreter.digitLimit deadManChatIdVar chatRaw
  let threadId ← optionalParsed .deadManSettingsError env deadManThreadIdVar
    (parseDecimalInt .deadManSettingsError interpreter.digitLimit deadManThreadIdVar)
  let timeout ← optionalParsed .deadManSettingsError env deadManTelegramTimeoutVar
    (parsePositiveFloat .deadManSettingsError deadManTelegramTimeoutVar)
  accepted .deadManSettingsError
    (DeadManTelegramSettings.make (telegramFields botToken chatId threadId timeout))
    "DeadManTelegramSettings"

structure DeadManRuntimeSettings (urlsplit : UrlParser) where
  probe : DeadManProbeSettings urlsplit
  statePath : PyPath
  store : DeadManStateStore
  telegram : DeadManTelegramSettings

def loadDeadmanSettings (interpreter : Interpreter) (urlsplit : UrlParser)
    (env : EnvironmentMapping) : Fallible (DeadManRuntimeSettings urlsplit) := do
  let snapshot ← takeSnapshot .deadManSettingsError env
  let probe ← loadProbeSettings urlsplit snapshot
  let stored ← loadStore snapshot
  let telegram ← loadTelegramSettings interpreter snapshot
  .ok { probe := probe, statePath := stored.1, store := stored.2, telegram := telegram }

theorem requireSplitUrl_raises (split : SplitUrl) :
    RaisesOnly RefusesArguments (requireSplitUrl split) := by
  have invalid (message : String) (shown : PyStr) :
      RaisesOnly RefusesArguments (invalidUrl message shown : Fallible Unit) := by
    intro e failed
    cases failed
    exact refusesArguments_value
  unfold requireSplitUrl
  split
  · exact invalid _ _
  · apply RaisesOnly.bind (.require refusesArguments_value _)
    intro _ _
    apply RaisesOnly.bind (.require refusesArguments_value _)
    intro _ _
    apply RaisesOnly.bind (.require refusesArguments_value _)
    intro _ _
    cases split.port with
    | ok port => exact .ok ()
    | error detail => exact invalid _ _

theorem requireHttpsUrl_raises (urlsplit : UrlParser) (url : PyStr) :
    RaisesOnly RefusesArguments (requireHttpsUrl urlsplit url) := by
  apply RaisesOnly.bind (.require refusesArguments_value _)
  intro _ _
  apply RaisesOnly.bind (.require refusesArguments_value _)
  intro _ _
  cases urlsplit url with
  | ok split => exact requireSplitUrl_raises split
  | error detail =>
      intro e failed
      cases failed
      exact refusesArguments_value

theorem loadDeadmanSettings_fails (interpreter : Interpreter) (urlsplit : UrlParser)
    (env : EnvironmentMapping) :
    RaisesOnly (fun raised => raised = .deadManSettingsError)
      (loadDeadmanSettings interpreter urlsplit env) := by
  apply RaisesOnly.bind (takeSnapshot_raises _)
  intro snapshot _
  apply RaisesOnly.bind
  · apply RaisesOnly.bind (requiredNonEmptyString_raises _ _)
    intro url _
    apply RaisesOnly.bind (optionalParsed_raises _ (parsePositiveFloat_raises _) _)
    intro timeout _
    exact accepted_raises _ (construct_raises _
      (.bind (requireHttpsUrl_raises _ _) fun _ _ => requirePositive_raises _ _))
  intro probe _
  apply RaisesOnly.bind
  · exact .bind (requiredNonEmptyString_raises _ _) fun _ _ => .ok _
  intro stored _
  apply RaisesOnly.bind
  · apply RaisesOnly.bind (requiredNonEmptyString_raises _ _)
    intro botToken _
    apply RaisesOnly.bind (requiredNonEmptyString_raises _ _)
    intro chatRaw _
    apply RaisesOnly.bind (parseDecimalInt_raises _ _ _)
    intro chatId _
    apply RaisesOnly.bind (optionalParsed_raises _ (parseDecimalInt_raises _ _) _)
    intro threadId _
    apply RaisesOnly.bind (optionalParsed_raises _ (parsePositiveFloat_raises _) _)
    intro timeout _
    exact accepted_raises _ (construct_raises _ (TelegramFields.postInit_raises _))
  intro telegram _
  exact .ok _

end Settings
end HermesSentinel
