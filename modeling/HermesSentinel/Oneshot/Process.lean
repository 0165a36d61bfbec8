import HermesSentinel.DeadMan.Cycle
import HermesSentinel.Foundation.Twin
import HermesSentinel.Oneshot.Prober
import HermesSentinel.Telegram.BoundedDelivery

namespace HermesSentinel
namespace Oneshot

open Python
open Foundation
open DeadMan
open Settings
open Telegram (Exchange DeliveryEvent DeliveryProgram)

/-!
# The dead-man process

`runDeadmanProcess` loads the settings, runs one cycle on the production
adapters and turns the way it ended into one line and an exit code.  Its
surroundings say how each access to the outside ends, as for a cycle; the prober
and the sender are the adapters over their exchanges.
-/

/-- What the process takes from the standard library. -/
structure StandardLibrary where
  interpreter : Interpreter
  urlsplit : UrlParser
  scanner : JsonScanner
  reader : IsoReader
  /-- `json.loads` on a response body of the Bot API. -/
  scan : PyStr -> Json.Scanned Json

/-- A call of an adapter comes to an end, or the process is killed in it once
its request is out. -/
inductive Contact (α : Type)
  | ends (exchange : α)
  | crashes

/-- What a process finds. -/
structure Surroundings where
  /-- What the construction of an adapter raises. -/
  setup : Option Raised
  load : ReadAccess
  probing : Contact ProbeExchange
  clock : Reply ClockReading
  firstSave : WriteAccess
  sending : Contact Exchange
  secondSave : WriteAccess

inductive Stream
  | stdout
  | stderr
  deriving DecidableEq

/-- What follows the fixed words of a line. -/
inductive Shown
  | cycle (state : DeadManState) (pending : Nat)
  /-- The text of an exception. -/
  | text (e : Raised)
  /-- The name of its class only. -/
  | typeName (kind : ExceptionClass)

structure Line where
  stream : Stream
  words : String
  shown : Shown

structure OneshotWorld where
  world : World
  probes : List ProbeEvent
  deliveries : List DeliveryEvent
  output : List Line

abbrev OneshotProgram (α : Type) := Program Interruption OneshotWorld α

/-- A part of the cycle that touches the file or the clock. -/
def inCycle {α : Type} (program : CycleProgram α) : OneshotProgram α :=
  Program.zoom OneshotWorld.world (fun world w => { w with world }) program

def inProbe {α : Type} (program : ProbeProgram α) : OneshotProgram α :=
  Program.zoom OneshotWorld.probes (fun probes w => { w with probes })
    (Program.widen Interruption.raised program)

def inDelivery {α : Type} (program : DeliveryProgram α) : OneshotProgram α :=
  Program.zoom OneshotWorld.deliveries (fun deliveries w => { w with deliveries })
    (Program.widen Interruption.raised program)

def print (line : Line) : OneshotProgram Unit :=
  Program.update fun w => { w with output := w.output ++ [line] }

/-- The reply of an adapter, as a cycle sees it. -/
def replyOf {α : Type} : Except Interruption α -> Reply α
  | .ok value => .returns value
  | .error (.raised e) => .raises e
  | .error .crashed => .crashes

section

variable (library : StandardLibrary) (surroundings : Surroundings)

def callProber (settings : DeadManProbeFields) : OneshotProgram DeadManProbeOutcome :=
  match surroundings.probing with
  | .ends exchange => inProbe (probe settings exchange)
  | .crashes => do
      inProbe (openProbe settings)
      Program.interrupt .crashed

def callSender (settings : TelegramFields) (message : PyStr) : OneshotProgram Unit :=
  match surroundings.sending with
  | .ends exchange =>
      inDelivery (Telegram.sendMessage Telegram.DeadManTelegramSender.delivery library.scan settings
        exchange message)
  | .crashes => do
      let request ← inDelivery (Program.lift (Telegram.buildRequest settings message))
      inDelivery (Program.update fun log => log ++ [.opened request settings.timeoutSeconds])
      Program.interrupt .crashed

/-- `sender.send`, noted in the log of the cycle with how it ended. -/
def deliver (settings : TelegramFields) (notification : DeadManNotification) :
    OneshotProgram Unit := do
  let ended ← Program.caught
    (callSender library surroundings settings (Telegram.renderDeadmanMessage notification))
  inCycle (DeadMan.send (replyOf ended) notification)

/-- `run_deadman_cycle` with the adapters of the process. -/
def runCycle (probeSettings : DeadManProbeFields) (telegram : TelegramFields) :
    OneshotProgram DeadManCycleResult := do
  let status ← inCycle (DeadMan.load library.scanner library.reader surroundings.load)
  let outcome ← callProber surroundings probeSettings
  let reading ← inCycle (await surroundings.clock)
  let now ← inCycle (pythonCall (requireAwareNow reading))
  let advanced ← inCycle (pythonCall (advanceDeadmanStatus status outcome now))
  inCycle (save surroundings.firstSave advanced)
  match advanced.pendingNotifications with
  | [] => pure { state := advanced.state, pendingCount := 0 }
  | oldest :: _ => do
      deliver library surroundings telegram oldest
      let acknowledged ←
        inCycle (pythonCall (acknowledgeDeadmanNotification advanced oldest.notificationId))
      inCycle (save surroundings.secondSave acknowledged)
      pure {
        state := acknowledged.state
        pendingCount := acknowledged.pendingNotifications.length
        deliveredNotificationId := some oldest.notificationId
        acknowledgedNotificationId := some oldest.notificationId }

def complain (words : String) (shown : Shown) : OneshotProgram Nat := do
  print { stream := .stderr, words, shown }
  pure 1

/-- The `except` clauses behind the cycle, in order. -/
def reportFailure (e : Raised) : OneshotProgram Nat :=
  if e.kind = .deadManStateStoreError then
    complain "hermes-sentinel-deadman: state store failure: " (.text e)
  else if e.kind = .deadManTelegramDeliveryError then
    complain "hermes-sentinel-deadman: " (.text e)
  else if e.kind = .deadManRuntimeError then
    complain "hermes-sentinel-deadman: runtime failure: " (.text e)
  else if e.kind.isException = true then
    complain "hermes-sentinel-deadman: unexpected runtime failure: " (.typeName e.kind)
  else Program.interrupt (.raised e)

def reportCycle : Except Interruption DeadManCycleResult -> OneshotProgram Nat
  | .ok result => do
      print {
        stream := .stdout
        words := "dead-man cycle completed:"
        shown := .cycle result.state result.pendingCount }
      pure 0
  | .error (.raised e) => reportFailure e
  | .error .crashed => Program.interrupt .crashed

/-- The cycle within its `try`. -/
def runReported (probeSettings : DeadManProbeFields) (telegram : TelegramFields) :
    OneshotProgram Nat := do
  let ended ← Program.caught (runCycle library surroundings probeSettings telegram)
  reportCycle ended

/-- The construction of the adapters within its `try`. -/
def setUp : OneshotProgram Nat -> OneshotProgram Nat := fun next =>
  match surroundings.setup with
  | none => next
  | some e =>
      if e.kind.isException = true then
        complain "hermes-sentinel-deadman: dead-man runtime setup failed: " (.typeName e.kind)
      else Program.interrupt (.raised e)

def runDeadmanProcess (env : EnvironmentMapping) : OneshotProgram Nat :=
  match loadDeadmanSettings library.interpreter library.urlsplit env with
  | .ok settings =>
      setUp surroundings (runReported library surroundings settings.probe.toDeadManProbeFields
        settings.telegram.toTelegramFields)
  | .error e =>
      if e.kind = .deadManSettingsError then
        complain "hermes-sentinel-deadman: configuration error: " (.text e)
      else Program.interrupt (.raised e)

end

end Oneshot
end HermesSentinel
