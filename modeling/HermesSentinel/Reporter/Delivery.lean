import HermesSentinel.Foundation.Program
import HermesSentinel.Reporter.Collector

namespace HermesSentinel
namespace Reporter

open Foundation
open Foundation.Awk
open Foundation.Decimal

/-!
# The one-shot delivery

`sentinel-report.sh` validates its configuration, collects one document, and
hands it to one `curl`.  The shell keeps its environment and its xtrace flag;
what it shows, what its children inherit and what `curl` is given are noted in
order.  `curl` and the world behind it are parameters.

A local variable of bash is exported if a variable of its name is: the children
of a script that was given a variable `token` inherit the local `token`.
-/

abbrev Variables := String -> Text

def Variables.set (environment : Variables) (name : String) (value : Text) : Variables :=
  fun other => if other = name then value else environment other

/-- One call of `curl`: its arguments, what it reads and what it inherits. -/
structure CurlCall where
  arguments : List Text
  stdin : Text
  environment : Variables

/-- How the pipeline ends: whether a command of it fails, and what `curl` prints. -/
structure CurlReply where
  failed : Bool
  output : Text

inductive ShellEvent
  /-- A command that xtrace shows with what it was expanded to. -/
  | traced (command : String) (expansions : List Text)
  | diagnosed (message : String)
  /-- The subshell of the collector, with the environment it is given. -/
  | collected (environment : Variables)
  | called (call : CurlCall)

structure Shell (Remote : Type) where
  environment : Variables
  /-- The names whose variables are exported: those in the environment the script
  is given, and every name under `allexport`. -/
  exported : String -> Bool
  xtrace : Bool
  events : List ShellEvent
  remote : Remote

/-- What a run finds. -/
structure Station (Remote : Type) where
  host : MonitoredHost
  /-- `command -v curl`. -/
  curlAvailable : Bool
  curl : CurlCall -> Remote -> CurlReply × Remote

section

variable {Remote : Type}

/-- A part of the script, interrupted by its exit status. -/
abbrev Script (Remote α : Type) := Program Nat (Shell Remote) α

def note (event : ShellEvent) : Script Remote Unit :=
  Program.update fun w => { w with events := w.events ++ [event] }

/-- xtrace shows a command before it is run. -/
def traced (command : String) (expansions : List Text) : Script Remote Unit := do
  let w ← Program.read
  Program.onlyIf w.xtrace (note (.traced command expansions))

def fail {α : Type} (message : String) : Script Remote α := do
  traced "fail" [text message]
  note (.diagnosed message)
  Program.interrupt 1

/-- What an assignment leaves in the environment. -/
def assigned (exported : String -> Bool) (name : String) (value : Text) (environment : Variables) :
    Variables :=
  if exported name = true then environment.set name value else environment

/-- `name=value`, also as a local variable. -/
def assign (name : String) (value : Text) : Script Remote Unit := do
  traced name [value]
  Program.update fun w => { w with environment := assigned w.exported name value w.environment }

/-- `local name=${VARIABLE-}`. -/
def readVariable (name variableName : String) : Script Remote Text := do
  let w ← Program.read
  assign name (w.environment variableName)
  pure (w.environment variableName)

/-- `if ! command value; then fail message; fi`. -/
def orElseFail (command : String) (expansions : List Text) (accepted : Bool) (message : String) :
    Script Remote Unit := do
  traced command expansions
  if accepted = true then pure () else fail message

def setXtrace (xtrace : Bool) : Script Remote Unit :=
  Program.update fun w => { w with xtrace }

/-- `unset SENTINEL_TOKEN`. -/
def unsetToken : Script Remote Unit := do
  traced "unset SENTINEL_TOKEN" []
  Program.update fun w =>
    { w with environment := fun name =>
        if name = "SENTINEL_TOKEN" then [] else w.environment name }

/-- `[[:space:]]` and `[[:cntrl:]]` of the C locale. -/
def isSpaceOrControl (c : CodePoint) : Bool :=
  decide (c.val ≤ 32 ∨ c.val = 127)

/-- `^https://[^[:space:][:cntrl:]]+$` -/
def validateEndpointUrl (value : Text) : Bool :=
  (text "https://").isPrefixOf value &&
    let rest := value.drop (text "https://").length
    !rest.isEmpty && rest.all fun c => !isSpaceOrControl c

/-- The arguments of `curl`; `\x7b` and `\x7d` are the braces. -/
def curlArguments (endpoint payload : Text) : List Text :=
  ["--disable", "--request", "POST", "--header", "Content-Type: application/json",
      "--header", "Expect:", "--header", "@-", "--data-binary"].map text ++
    [payload] ++
    ["--proto", "=https", "--connect-timeout", "10", "--max-time", "20", "--silent",
      "--output", "/dev/null", "--write-out", "%\x7bhttp_code\x7d"].map text ++
    [endpoint]

/-- The line through which the token reaches `curl`. -/
def tokenLine (token : Text) : Text :=
  text "X-Sentinel-Token: " ++ token ++ [newline]

variable (station : Station Remote)

/-- `send_heartbeat`. -/
def sendHeartbeat (endpoint payload token : Text) : Script Remote Bool := do
  traced "send_heartbeat" [endpoint, payload, token]
  assign "endpoint" endpoint
  assign "payload" payload
  assign "token" token
  let w ← Program.read
  let call : CurlCall := {
    arguments := curlArguments endpoint payload
    stdin := tokenLine token
    environment := w.environment }
  let reply := station.curl call w.remote
  Program.update fun w => { w with remote := reply.2, events := w.events ++ [.called call] }
  traced "status" [commandSubstitution reply.1.output]
  pure (!reply.1.failed && decide (commandSubstitution reply.1.output = text "204"))

/-- `payload=$(collect_payload 2>/dev/null)`; its own diagnostic is dropped. -/
def collect : Script Remote Text := do
  let w ← Program.read
  note (.collected w.environment)
  match ({ station.host with environment := w.environment } : MonitoredHost).collectPayload with
  | .error _ => fail "cannot collect telemetry"
  | .ok output => do
      assign "payload" (commandSubstitution output)
      pure (commandSubstitution output)

/-! ## The executable path -/

/-- `main` from its first secret on, while xtrace is off. -/
def report (restoreXtrace : Bool) : Script Remote Unit := do
  let endpoint ← readVariable "endpoint" "SENTINEL_ENDPOINT"
  orElseFail "validate_endpoint_url" [endpoint] (validateEndpointUrl endpoint)
    "SENTINEL_ENDPOINT is required and must be an https:// URL"
  let token ← readVariable "token" "SENTINEL_TOKEN"
  orElseFail "validate_reporter_token" [token] (validateReporterToken token)
    "SENTINEL_TOKEN is required and must match the documented reporter token constraint"
  orElseFail "command -v curl" [] station.curlAvailable "curl is required for heartbeat delivery"
  unsetToken
  let payload ← collect station
  orElseFail "validate_payload_size" [payload] (validatePayloadSize payload)
    "heartbeat payload size is outside the accepted transport limit"
  let delivered ← sendHeartbeat station endpoint payload token
  orElseFail "send_heartbeat" [] delivered "heartbeat delivery failed"
  Program.onlyIf restoreXtrace (setXtrace true)
  traced "return 0" []

/-- `main`. -/
def main : Script Remote Unit := do
  assign "restore_xtrace" (text "0")
  let w ← Program.read
  Program.onlyIf w.xtrace do
    assign "restore_xtrace" (text "1")
    traced "set +x" []
    setXtrace false
  report station w.xtrace

/-- The commands before the functions. -/
def prologue : Script Remote Unit := do
  traced "set -euo pipefail" []
  traced "export LC_ALL=C" []
  Program.update fun w => { w with environment := w.environment.set "LC_ALL" (text "C") }
  assign "PROG_NAME" (text "sentinel-report")
  assign "SENTINEL_MAX_BODY_BYTES" (text "16384")
  assign "SENTINEL_CONNECT_TIMEOUT_SECONDS" (text "10")
  assign "SENTINEL_REQUEST_TIMEOUT_SECONDS" (text "20")

/-- The script, called as a command. -/
def script : Script Remote Unit := do
  prologue
  main station

/-! ## What a run does -/

def callOf : ShellEvent -> Option CurlCall
  | .called call => some call
  | _ => none

def diagnosisOf : ShellEvent -> Option String
  | .diagnosed message => some message
  | _ => none

/-- The environment of a child. -/
def inheritedBy : ShellEvent -> Option Variables
  | .collected environment => some environment
  | .called call => some call.environment
  | _ => none

def withoutToken (environment : Variables) : Variables := fun name =>
  if name = "SENTINEL_TOKEN" then [] else environment name

/-- The environment when `main` is called. -/
def Shell.atMain (start : Shell Remote) : Variables :=
  start.environment.set "LC_ALL" (text "C")
    |> assigned start.exported "PROG_NAME" (text "sentinel-report")
    |> assigned start.exported "SENTINEL_MAX_BODY_BYTES" (text "16384")
    |> assigned start.exported "SENTINEL_CONNECT_TIMEOUT_SECONDS" (text "10")
    |> assigned start.exported "SENTINEL_REQUEST_TIMEOUT_SECONDS" (text "20")

/-- The environment when xtrace is off. -/
def Shell.silenced (start : Shell Remote) : Variables :=
  let environment := assigned start.exported "restore_xtrace" (text "0") start.atMain
  if start.xtrace = true then assigned start.exported "restore_xtrace" (text "1") environment
  else environment

/-- What the subshell of the collector inherits. -/
def Shell.forCollector (start : Shell Remote) : Variables :=
  start.silenced
    |> assigned start.exported "endpoint" (start.environment "SENTINEL_ENDPOINT")
    |> assigned start.exported "token" (start.environment "SENTINEL_TOKEN")
    |> withoutToken

/-- What `curl` inherits: the document was assigned before, and `send_heartbeat`
has locals of its own. -/
def Shell.forCurl (start : Shell Remote) (payload : Text) : Variables :=
  start.forCollector
    |> assigned start.exported "payload" payload
    |> assigned start.exported "endpoint" (start.environment "SENTINEL_ENDPOINT")
    |> assigned start.exported "payload" payload
    |> assigned start.exported "token" (start.environment "SENTINEL_TOKEN")

/-- The document of a run, where it collects one. -/
def Station.payload (start : Shell Remote) : Option Text :=
  match ({ station.host with environment := start.forCollector } : MonitoredHost).collectPayload with
  | .error _ => none
  | .ok output => some (commandSubstitution output)

/-- The call of `curl`, where a run comes to it. -/
def Station.prepared (start : Shell Remote) : Option CurlCall :=
  let endpoint := start.environment "SENTINEL_ENDPOINT"
  let token := start.environment "SENTINEL_TOKEN"
  if validateEndpointUrl endpoint = true ∧ validateReporterToken token = true ∧
      station.curlAvailable = true then
    (station.payload start).bind fun payload =>
      if validatePayloadSize payload = true then
        some {
          arguments := curlArguments endpoint payload
          stdin := tokenLine token
          environment := start.forCurl payload }
      else none
  else none

/-- The status is exactly 204, and no command of the pipeline failed. -/
def CurlReply.Accepted (reply : CurlReply) : Prop :=
  reply.failed = false ∧ commandSubstitution reply.output = text "204"

/-- The names that the script assigns. -/
def scriptNames : List String :=
  ["LC_ALL", "PROG_NAME", "SENTINEL_MAX_BODY_BYTES", "SENTINEL_CONNECT_TIMEOUT_SECONDS",
    "SENTINEL_REQUEST_TIMEOUT_SECONDS", "restore_xtrace", "endpoint", "token", "payload"]

/-- A child inherits the environment of the script without the variable of the
token.  The local copy of the token comes with it exactly if `token` is exported. -/
structure Inherits (start : Shell Remote) (environment : Variables) : Prop where
  removed : environment "SENTINEL_TOKEN" = []
  copy : environment "token" =
    if start.exported "token" = true then start.environment "SENTINEL_TOKEN"
    else start.environment "token"
  others : forall name, name ∉ scriptNames -> name ≠ "SENTINEL_TOKEN" ->
    environment name = start.environment name

/-- What was noted since a start: these calls, these diagnostics, and what the
children inherited. -/
def Noted (start : Shell Remote) (calls : List CurlCall) (messages : List String)
    (w : Shell Remote) : Prop :=
  exists new, w.events = start.events ++ new ∧ new.filterMap callOf = calls ∧
    new.filterMap diagnosisOf = messages ∧
    forall event, event ∈ new -> forall environment, inheritedBy event = some environment ->
      Inherits start environment

/-- One run of the reporter. -/
structure DeliveryContract (start : Shell Remote) : Prop where
  /-- It calls `curl` once if it comes to it, and otherwise never. -/
  calls : exists messages, Noted start (station.prepared start).toList messages
    (script station start).2 ∧ messages.length ≤ 1 ∧
      ((script station start).1 = .ok () ↔ messages = [])
  /-- It succeeds exactly on the status 204 of that call. -/
  succeeds : (script station start).1 = .ok () ↔
    exists call, station.prepared start = some call ∧
      (station.curl call start.remote).1.Accepted
  fails : forall status, (script station start).1 = .error status -> status = 1
  /-- Nothing else reaches the world behind `curl`. -/
  remote : (script station start).2.remote =
    (station.prepared start).elim start.remote fun call =>
      (station.curl call start.remote).2
  restored : (script station start).1 = .ok () -> (script station start).2.xtrace = start.xtrace

/-! ## What children inherit -/

section Environments

variable {exported : String -> Bool} {name other : String} {value : Text} {environment : Variables}

theorem set_other (different : other ≠ name) : environment.set name value other = environment other :=
  if_neg different

theorem assigned_other (different : other ≠ name) :
    assigned exported name value environment other = environment other := by
  unfold assigned
  split
  · exact set_other different
  · rfl

theorem assigned_same : assigned exported name value environment name =
    if exported name = true then value else environment name := by
  unfold assigned
  split
  · exact if_pos rfl
  · rfl

theorem assigned_unexported (unexported : exported name = false) :
    assigned exported name value environment = environment :=
  if_neg (Bool.eq_false_iff.mp unexported)

theorem withoutToken_token (environment : Variables) :
    withoutToken environment "SENTINEL_TOKEN" = [] :=
  if_pos rfl

theorem withoutToken_other (different : name ≠ "SENTINEL_TOKEN") :
    withoutToken environment name = environment name :=
  if_neg different

/-- Up to `main` only names of the script are assigned. -/
theorem silenced_get (start : Shell Remote) (foreign : name ∉ scriptNames) :
    start.silenced name = start.environment name := by
  simp only [scriptNames, List.mem_cons, List.not_mem_nil, or_false, not_or] at foreign
  rcases foreign with ⟨locale, program, body, connect, request, restore, _⟩
  have atMain : start.atMain name = start.environment name := by
    rw [Shell.atMain, assigned_other request, assigned_other connect, assigned_other body,
      assigned_other program, set_other locale]
  unfold Shell.silenced
  split
  · rw [assigned_other restore, assigned_other restore, atMain]
  · rw [assigned_other restore, atMain]

theorem silenced_token (start : Shell Remote) :
    start.silenced "token" = start.environment "token" := by
  have atMain : start.atMain "token" = start.environment "token" := by
    rw [Shell.atMain, assigned_other (by decide), assigned_other (by decide),
      assigned_other (by decide), assigned_other (by decide), set_other (by decide)]
  unfold Shell.silenced
  split
  · rw [assigned_other (by decide), assigned_other (by decide), atMain]
  · rw [assigned_other (by decide), atMain]

theorem inherits_forCollector (start : Shell Remote) : Inherits start start.forCollector where
  removed := withoutToken_token _
  copy := by
    rw [Shell.forCollector, withoutToken_other (by decide), assigned_same,
      assigned_other (by decide), silenced_token]
  others name foreign different := by
    have own := foreign
    simp only [scriptNames, List.mem_cons, List.not_mem_nil, or_false, not_or] at own
    rcases own with ⟨_, _, _, _, _, _, endpoint, token, _⟩
    rw [Shell.forCollector, withoutToken_other different, assigned_other token,
      assigned_other endpoint, silenced_get start foreign]

theorem inherits_forCurl (start : Shell Remote) (payload : Text) :
    Inherits start (start.forCurl payload) where
  removed := by
    rw [Shell.forCurl, assigned_other (by decide), assigned_other (by decide),
      assigned_other (by decide), assigned_other (by decide)]
    exact (inherits_forCollector start).removed
  copy := by
    rw [Shell.forCurl, assigned_same, assigned_other (by decide), assigned_other (by decide),
      assigned_other (by decide), (inherits_forCollector start).copy]
    split
    · rfl
    · rfl
  others name foreign different := by
    have own := foreign
    simp only [scriptNames, List.mem_cons, List.not_mem_nil, or_false, not_or] at own
    rcases own with ⟨_, _, _, _, _, _, endpoint, token, document⟩
    rw [Shell.forCurl, assigned_other token, assigned_other document, assigned_other endpoint,
      assigned_other document]
    exact (inherits_forCollector start).others name foreign different

end Environments

section Runs

variable {station} {start : Shell Remote}

theorem Noted.nothing : Noted start [] [] start :=
  ⟨[], (List.append_nil _).symm, rfl, rfl, nofun⟩

theorem Noted.concat {calls : List CurlCall} {messages : List String} {w w' : Shell Remote}
    (noted : Noted start calls messages w) {event : ShellEvent}
    (events : w'.events = w.events ++ [event])
    (inherited : forall environment, inheritedBy event = some environment ->
      Inherits start environment) :
    Noted start (calls ++ (callOf event).toList) (messages ++ (diagnosisOf event).toList) w' := by
  rcases noted with ⟨new, shape, rfl, rfl, clean⟩
  refine ⟨new ++ [event], ?_, ?_, ?_, ?_⟩
  · rw [events, shape, List.append_assoc]
  · rw [List.filterMap_append]
    cases event <;> rfl
  · rw [List.filterMap_append]
    cases event <;> rfl
  · intro other member
    rcases List.mem_append.mp member with earlier | newest
    · exact clean other earlier
    · rw [List.mem_singleton.mp newest]
      exact inherited

/-- Between two commands of a run that has not failed. -/
structure Between (start : Shell Remote) (xtrace : Bool) (environment : Variables) (remote : Remote)
    (calls : List CurlCall) (w : Shell Remote) : Prop where
  xtrace : w.xtrace = xtrace
  exported : w.exported = start.exported
  environment : w.environment = environment
  remote : w.remote = remote
  noted : Noted start calls [] w

/-- A run that has failed. -/
def Failed (start : Shell Remote) (remote : Remote) (calls : List CurlCall) (status : Nat)
    (w : Shell Remote) : Prop :=
  status = 1 ∧ w.remote = remote ∧ exists message, Noted start calls [message] w

variable {xtrace : Bool} {environment : Variables} {remote : Remote} {calls : List CurlCall}
variable {abort : Nat -> Shell Remote -> Prop}

/-- An event that is neither a call nor a diagnostic. -/
theorem note_spec {event : ShellEvent} (silent : callOf event = none ∧ diagnosisOf event = none)
    (inherited : forall own, inheritedBy event = some own -> Inherits start own) :
    Program.Spec (Between start xtrace environment remote calls) (note event)
      (fun _ => Between start xtrace environment remote calls) abort := by
  refine .update fun w between =>
    ⟨between.xtrace, between.exported, between.environment, between.remote, ?_⟩
  have noted := @Noted.concat _ start calls [] w { w with events := w.events ++ [event] }
    between.noted event rfl inherited
  rw [silent.1, silent.2, Option.toList_none, List.append_nil] at noted
  exact noted

/-- The value of a command that only looks. -/
theorem read_spec :
    Program.Spec (Between start xtrace environment remote calls) (Program.read : Script Remote (Shell Remote))
      (fun v w => (v.xtrace = xtrace ∧ v.environment = environment ∧ v.remote = remote) ∧
        Between start xtrace environment remote calls w) abort :=
  .read fun _ between => ⟨⟨between.xtrace, between.environment, between.remote⟩, between⟩

/-- A step that changes nothing but the environment. -/
theorem environment_spec {change : Shell Remote -> Variables} {next : Variables}
    (changed : forall w, w.exported = start.exported -> w.environment = environment ->
      change w = next) :
    Program.Spec (Between start xtrace environment remote calls)
      (Program.update fun w => { w with environment := change w })
      (fun _ => Between start xtrace next remote calls) abort :=
  .update fun w between => ⟨between.xtrace, between.exported,
    changed w between.exported between.environment, between.remote, between.noted⟩

theorem traced_spec (command : String) (expansions : List Text) :
    Program.Spec (Between start xtrace environment remote calls) (traced command expansions)
      (fun _ => Between start xtrace environment remote calls) abort := by
  refine .bind read_spec fun v => .given fun same => ?_
  rw [same.1]
  cases xtrace with
  | false => exact .pure fun _ between => between
  | true => exact note_spec ⟨rfl, rfl⟩ nofun

theorem setXtrace_spec (next : Bool) :
    Program.Spec (Between start xtrace environment remote calls) (setXtrace next)
      (fun _ => Between start next environment remote calls) abort :=
  .update fun _ between =>
    ⟨rfl, between.exported, between.environment, between.remote, between.noted⟩

theorem assign_spec (name : String) (value : Text) :
    Program.Spec (Between start xtrace environment remote calls) (assign name value)
      (fun _ => Between start xtrace (assigned start.exported name value environment) remote calls)
      abort := by
  refine .bind (traced_spec _ _) fun _ => environment_spec fun w exported same => ?_
  rw [exported, same]

theorem fail_spec {α : Type} {never : α -> Shell Remote -> Prop} (message : String) :
    Program.Spec (Between start xtrace environment remote calls) (fail message) never
      (Failed start remote calls) := by
  refine .bind (traced_spec _ _) fun _ => ?_
  refine .bind (.update fun w between => ?_) fun _ => .interrupt fun w failed => failed
  have noted := @Noted.concat _ start calls [] w { w with events := w.events ++ [.diagnosed message] }
    between.noted (.diagnosed message) rfl nofun
  rw [show (callOf (.diagnosed message)).toList = [] from rfl, List.append_nil] at noted
  exact ⟨rfl, between.remote, message, noted⟩

theorem orElseFail_spec (command : String) (expansions : List Text) (accepted : Bool)
    (message : String) :
    Program.Spec (Between start xtrace environment remote calls)
      (orElseFail command expansions accepted message)
      (fun _ w => accepted = true ∧ Between start xtrace environment remote calls w)
      (fun status w => accepted ≠ true ∧ Failed start remote calls status w) := by
  refine .bind (traced_spec _ _) fun _ => ?_
  by_cases holds : accepted = true
  · rw [if_pos holds]
    exact .pure fun w between => ⟨holds, between⟩
  · rw [if_neg holds]
    exact (fail_spec message).mono (fun _ => id) (fun _ _ => id) fun _ _ failed => ⟨holds, failed⟩

theorem readVariable_spec (name variableName : String) :
    Program.Spec (Between start xtrace environment remote calls) (readVariable name variableName)
      (fun value w => value = environment variableName ∧ Between start xtrace
        (assigned start.exported name (environment variableName) environment) remote calls w)
      abort := by
  refine .bind read_spec fun v => .given fun same => ?_
  rw [same.2.1]
  exact .bind (assign_spec _ _) fun _ => .pure fun w between => ⟨rfl, between⟩

theorem unsetToken_spec :
    Program.Spec (Between start xtrace environment remote calls) unsetToken
      (fun _ => Between start xtrace (withoutToken environment) remote calls) abort :=
  .bind (traced_spec _ _) fun _ => environment_spec fun _ _ same => congrArg withoutToken same

theorem collect_spec :
    Program.Spec (Between start xtrace start.forCollector remote calls) (collect station)
      (fun payload w => station.payload start = some payload ∧ Between start xtrace
        (assigned start.exported "payload" payload start.forCollector) remote calls w)
      (fun status w => station.payload start = none ∧ Failed start remote calls status w) := by
  refine .bind read_spec fun v => .given fun same => ?_
  rw [same.2.1]
  have inherited : forall own, inheritedBy (.collected start.forCollector) = some own ->
      Inherits start own := by
    intro own same
    cases same
    exact inherits_forCollector start
  refine .bind (note_spec ⟨rfl, rfl⟩ inherited) fun _ => ?_
  unfold Station.payload
  cases ({ station.host with environment := start.forCollector } : MonitoredHost).collectPayload with
  | error message =>
      exact (fail_spec _).mono (fun _ => id) (fun _ _ => id) fun _ _ failed => ⟨rfl, failed⟩
  | ok output =>
      exact .bind (assign_spec _ _) fun _ => .pure fun _ between => ⟨rfl, between⟩

/-- One call, whatever comes back. -/
theorem sendHeartbeat_spec (payload : Text) :
    let endpoint := start.environment "SENTINEL_ENDPOINT"
    let token := start.environment "SENTINEL_TOKEN"
    let call : CurlCall := ⟨curlArguments endpoint payload, tokenLine token, start.forCurl payload⟩
    Program.Spec
      (Between start xtrace (assigned start.exported "payload" payload start.forCollector) remote [])
      (sendHeartbeat station endpoint payload token)
      (fun delivered w => (delivered = true ↔ (station.curl call remote).1.Accepted) ∧
        Between start xtrace (start.forCurl payload) (station.curl call remote).2 [call] w)
      abort := by
  intro endpoint token call
  refine .bind (traced_spec _ _) fun _ => .bind (assign_spec _ _) fun _ =>
    .bind (assign_spec _ _) fun _ => .bind (assign_spec _ _) fun _ => ?_
  show Program.Spec (Between start xtrace (start.forCurl payload) remote []) _ _ abort
  refine .bind read_spec fun v => .given fun same => ?_
  rw [same.2.1, same.2.2]
  have inherited : forall own, inheritedBy (.called call) = some own -> Inherits start own := by
    intro own same
    cases same
    exact inherits_forCurl start payload
  have called : Program.Spec (Between start xtrace (start.forCurl payload) remote [])
      (Program.update fun w : Shell Remote =>
        { w with remote := (station.curl call remote).2, events := w.events ++ [.called call] })
      (fun _ => Between start xtrace (start.forCurl payload) (station.curl call remote).2 [call])
      abort := by
    refine .update fun w between =>
      ⟨between.xtrace, between.exported, between.environment, rfl, ?_⟩
    exact between.noted.concat rfl inherited
  refine .bind called fun _ => .bind (traced_spec _ _) fun _ => .pure fun w between => ⟨?_, between⟩
  simp [CurlReply.Accepted, call]

/-- What a run has done where it returns. -/
def Succeeded (station : Station Remote) (start : Shell Remote) (w : Shell Remote) : Prop :=
  exists call, station.prepared start = some call ∧
    (station.curl call start.remote).1.Accepted ∧ w.xtrace = start.xtrace ∧
    w.remote = (station.curl call start.remote).2 ∧ Noted start [call] [] w

/-- What it has done where it exits. -/
inductive Exited (station : Station Remote) (start : Shell Remote) (status : Nat) (w : Shell Remote) :
    Prop
  | unprepared (none : station.prepared start = none)
      (failed : Failed start start.remote [] status w)
  | refused (call : CurlCall) (some : station.prepared start = some call)
      (refused : ¬ (station.curl call start.remote).1.Accepted)
      (failed : Failed start (station.curl call start.remote).2 [call] status w)

theorem prepared_none
    (unready : ¬ (validateEndpointUrl (start.environment "SENTINEL_ENDPOINT") = true ∧
      validateReporterToken (start.environment "SENTINEL_TOKEN") = true ∧
      station.curlAvailable = true)) :
    station.prepared start = none :=
  if_neg unready

/-- Back to xtrace, where it was on. -/
theorem restore_spec (on : Bool) :
    Program.Spec (Between start false environment remote calls)
      (Program.onlyIf on (setXtrace true)) (fun _ => Between start on environment remote calls)
      abort := by
  cases on with
  | false => exact .pure fun _ between => between
  | true => exact setXtrace_spec true

theorem silence_spec :
    Program.Spec
      (Between start start.xtrace (assigned start.exported "restore_xtrace" (text "0") start.atMain)
        remote calls)
      (Program.onlyIf start.xtrace do
        assign "restore_xtrace" (text "1")
        traced "set +x" []
        setXtrace false)
      (fun _ => Between start false start.silenced remote calls) abort := by
  unfold Shell.silenced
  cases start.xtrace with
  | false => exact .pure fun _ between => between
  | true =>
      exact .bind (assign_spec _ _) fun _ => .bind (traced_spec _ _) fun _ => setXtrace_spec false

/-- The endpoint and the token are read as they were given. -/
theorem transport_environment (start : Shell Remote) :
    start.silenced "SENTINEL_ENDPOINT" = start.environment "SENTINEL_ENDPOINT" ∧
      assigned start.exported "endpoint" (start.environment "SENTINEL_ENDPOINT") start.silenced
        "SENTINEL_TOKEN" = start.environment "SENTINEL_TOKEN" := by
  rw [assigned_other (by decide)]
  exact ⟨silenced_get start (by decide), silenced_get start (by decide)⟩

theorem report_spec :
    Program.Spec (Between start false start.silenced start.remote []) (report station start.xtrace)
      (fun _ => Succeeded station start) (Exited station start) := by
  rcases transport_environment start with ⟨sameEndpoint, sameToken⟩
  refine .bind (readVariable_spec _ _) fun endpoint => .given fun isEndpoint => ?_
  rw [sameEndpoint] at isEndpoint ⊢
  subst isEndpoint
  refine .bind ((orElseFail_spec _ _ _ _).mono (fun _ => id) (fun _ _ => id) ?_) fun _ =>
    .given fun endpoint => ?_
  · exact fun status w failed => .unprepared (prepared_none fun ready => failed.1 ready.1) failed.2
  refine .bind (readVariable_spec _ _) fun token => .given fun isToken => ?_
  rw [sameToken] at isToken ⊢
  subst isToken
  refine .bind ((orElseFail_spec _ _ _ _).mono (fun _ => id) (fun _ _ => id) ?_) fun _ =>
    .given fun token => ?_
  · exact fun status w failed => .unprepared (prepared_none fun ready => failed.1 ready.2.1) failed.2
  refine .bind ((orElseFail_spec _ _ _ _).mono (fun _ => id) (fun _ _ => id) ?_) fun _ =>
    .given fun available => ?_
  · exact fun status w failed => .unprepared (prepared_none fun ready => failed.1 ready.2.2) failed.2
  have ready : station.prepared start = (station.payload start).bind _ :=
    if_pos ⟨endpoint, token, available⟩
  refine .bind unsetToken_spec fun _ => ?_
  refine .bind (collect_spec.mono (fun _ => id) (fun _ _ => id) ?_) fun payload =>
    .given fun collected => ?_
  · exact fun status w failed => .unprepared (by rw [ready, failed.1]; rfl) failed.2
  rw [collected] at ready
  refine .bind ((orElseFail_spec _ _ _ _).mono (fun _ => id) (fun _ _ => id) ?_) fun _ =>
    .given fun sized => ?_
  · exact fun status w failed => .unprepared (ready.trans (if_neg failed.1)) failed.2
  have prepared := ready.trans (if_pos sized)
  refine .bind (sendHeartbeat_spec _) fun delivered => .given fun accepted => ?_
  refine .bind ((orElseFail_spec _ _ _ _).mono (fun _ => id) (fun _ _ => id) ?_) fun _ =>
    .given fun success => ?_
  · exact fun status w failed =>
      .refused _ prepared (fun own => failed.1 (accepted.mpr own)) failed.2
  refine .bind (restore_spec _) fun _ => (traced_spec _ _).mono (fun _ => id) ?_ fun _ _ => id
  exact fun _ w between => ⟨_, prepared, accepted.mp success, between.xtrace, between.remote, between.noted⟩

theorem main_spec :
    Program.Spec (Between start start.xtrace start.atMain start.remote []) (main station)
      (fun _ => Succeeded station start) (Exited station start) := by
  refine .bind (assign_spec _ _) fun _ => .bind read_spec fun v => .given fun same => ?_
  rw [same.1]
  exact .bind silence_spec fun _ => report_spec

theorem prologue_spec :
    Program.Spec (Between start start.xtrace start.environment start.remote []) prologue
      (fun _ => Between start start.xtrace start.atMain start.remote []) abort := by
  refine .bind (traced_spec _ _) fun _ => .bind (traced_spec _ _) fun _ => ?_
  refine .bind (environment_spec fun w _ same => congrArg (Variables.set · _ _) same) fun _ => ?_
  exact .bind (assign_spec _ _) fun _ => .bind (assign_spec _ _) fun _ =>
    .bind (assign_spec _ _) fun _ => assign_spec _ _

variable (station start) in
/-- However a run ends, it has done what its configuration and its collector prescribe. -/
theorem script_spec :
    Program.Spec (fun w => w = start) (script station) (fun _ => Succeeded station start)
      (Exited station start) := by
  have begins : forall w, w = start ->
      Between start start.xtrace start.environment start.remote [] w := by
    rintro w rfl
    exact ⟨rfl, rfl, rfl, rfl, .nothing⟩
  exact .bind (prologue_spec.mono begins (fun _ _ => id) fun _ _ => id) fun _ => main_spec

/-- What holds of a run that succeeded. -/
theorem contract_succeeded {call : CurlCall} (prepared : station.prepared start = some call)
    (accepted : (station.curl call start.remote).1.Accepted)
    (ended : (script station start).1 = .ok ())
    (xtrace : (script station start).2.xtrace = start.xtrace)
    (remote : (script station start).2.remote = (station.curl call start.remote).2)
    (noted : Noted start [call] [] (script station start).2) : DeliveryContract station start where
  calls := by
    rw [prepared]
    exact ⟨[], noted, Nat.zero_le 1, iff_of_true ended rfl⟩
  succeeds := iff_of_true ended ⟨call, prepared, accepted⟩
  fails status failed := by
    rw [ended] at failed
    cases failed
  remote := by
    rw [prepared]
    exact remote
  restored _ := xtrace

/-- What holds of a run that exited. -/
theorem contract_exited {status : Nat} (ended : (script station start).1 = .error status)
    (exited : Exited station start status (script station start).2) : DeliveryContract station start := by
  have outcome : (forall call, station.prepared start = some call ->
        ¬ (station.curl call start.remote).1.Accepted) ∧
      status = 1 ∧
      (script station start).2.remote =
        ((station.prepared start).elim start.remote fun call =>
          (station.curl call start.remote).2) ∧
      exists message, Noted start (station.prepared start).toList [message]
        (script station start).2 := by
    cases exited with
    | unprepared prepared exit =>
        rw [prepared]
        exact ⟨nofun, exit⟩
    | refused call prepared refused exit =>
        rw [prepared]
        refine ⟨fun other same => ?_, exit⟩
        cases same
        exact refused
  rcases outcome with ⟨unaccepted, one, remote, message, noted⟩
  have failed : (script station start).1 ≠ .ok () := by
    rw [ended]
    exact nofun
  constructor
  case calls => exact ⟨[message], noted, le_rfl, iff_of_false failed (List.cons_ne_nil _ _)⟩
  case succeeds =>
    refine iff_of_false failed ?_
    rintro ⟨call, prepared, accepted⟩
    exact unaccepted call prepared accepted
  case fails =>
    intro other same
    rw [ended] at same
    cases same
    exact one
  case remote => exact remote
  case restored => exact fun returned => absurd returned failed

end Runs

/-- Whatever the host, its configuration and `curl` are, a run is one delivery or one diagnostic. -/
theorem reporter_delivers_once (start : Shell Remote) : DeliveryContract station start := by
  have ran := script_spec station start start rfl
  rcases ended : script station start with ⟨status | _, final⟩
  · rw [ended] at ran
    exact contract_exited (congrArg Prod.fst ended) (by rw [ended]; exact ran)
  · rw [ended] at ran
    rcases ran with ⟨call, prepared, accepted, xtrace, remote, noted⟩
    refine contract_succeeded prepared accepted (congrArg Prod.fst ended) ?_ ?_ ?_
    · rw [ended]
      exact xtrace
    · rw [ended]
      exact remote
    · rw [ended]
      exact noted

end

end Reporter
end HermesSentinel
