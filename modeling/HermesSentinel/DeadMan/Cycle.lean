import HermesSentinel.DeadMan.Ledger
import HermesSentinel.DeadMan.Store
import HermesSentinel.Foundation.EventLog
import HermesSentinel.Foundation.Program

namespace HermesSentinel
namespace DeadMan

open Python
open Foundation

/-!
# One dead-man cycle

`runDeadmanCycle` is the source's `run_deadman_cycle` as a program on a world
that holds the state file and a log of what was done to it and to the sender.
The environment of a cycle says how each call to the outside ends: it returns,
it raises, or the process is killed in it.  Being killed between two calls is
being killed at the start of the later one, before it has had any effect.

Saving replaces the file atomically or not at all, and the process may be
killed right after the replacement.
-/

/-- How a call to the outside ends. -/
inductive Reply (α : Type)
  | returns (value : α)
  | raises (e : Raised)
  | crashes

/-- How the access of `store.load` ends. -/
inductive ReadAccess
  | completes
  | fails
  | crashes

/-- How the accesses of `store.save` end.  Only the last two replace the file. -/
inductive WriteAccess
  | createFails
  | writeFails
  | replaceFails
  | crashes
  | crashesReplaced
  | completes

/-- What a clock can return. -/
inductive ClockReading
  | datetime (value : DateTime)
  | other

structure CycleEnvironment where
  load : ReadAccess
  probe : Reply DeadManProbeOutcome
  clock : Reply ClockReading
  firstSave : WriteAccess
  send : Reply Unit
  secondSave : WriteAccess

/-- Why a cycle ended early. -/
inductive Interruption
  | raised (e : Raised)
  | crashed

/-- What happened, in the order in which it happened.  A notification handed to
the sender is logged with the file of that moment and with whether the call
returned. -/
inductive Event
  | replaced (old new : StateFile)
  | sent (notification : DeadManNotification) (delivered : Bool) (file : StateFile)

structure World where
  file : StateFile
  log : List Event

/-- The absent file before the first cycle. -/
def World.initial : World where
  file := none
  log := []

abbrev CycleProgram (α : Type) := Program Interruption World α

def pythonCall {α : Type} : Fallible α -> CycleProgram α
  | .ok value => Pure.pure value
  | .error e => Program.interrupt (.raised e)

def await {α : Type} : Reply α -> CycleProgram α
  | .returns value => Pure.pure value
  | .raises e => Program.interrupt (.raised e)
  | .crashes => Program.interrupt .crashed

/-- `os.replace` of the target by a complete temporary file. -/
def replaceFile (data : List Utf8.Byte) : CycleProgram Unit :=
  Program.update fun w =>
    { file := some data, log := w.log ++ [.replaced w.file (some data)] }

/-- `DeadManStateStore.save`. -/
def save (access : WriteAccess) (status : DeadManStatus) : CycleProgram Unit := do
  let data ← pythonCall (serialise status)
  match access with
  | .createFails =>
      pythonCall (storeFailure "cannot create a temporary dead-man state file")
  | .writeFails => pythonCall (storeFailure "cannot write the temporary dead-man state file")
  | .replaceFails => pythonCall (storeFailure "cannot atomically replace the dead-man state file")
  | .crashes => Program.interrupt .crashed
  | .crashesReplaced => do
      replaceFile data
      Program.interrupt .crashed
  | .completes => replaceFile data

def Reply.delivered : Reply Unit -> Bool
  | .returns () => true
  | _ => false

/-- `sender.send`. -/
def send (reply : Reply Unit) (notification : DeadManNotification) : CycleProgram Unit := do
  Program.update fun w =>
    { w with log := w.log ++ [.sent notification reply.delivered w.file] }
  await reply

def requireAwareNow : ClockReading -> Fallible DateTime
  | .other => raise .deadManRuntimeError "dead-man clock boundary must produce a datetime"
  | .datetime now =>
      if now.isAware = true then .ok now
      else raise .deadManRuntimeError
        "dead-man clock boundary must produce a timezone-aware datetime (never naive)"

structure DeadManCycleResult where
  state : DeadManState
  pendingCount : Nat
  deliveredNotificationId : Option Int := none
  acknowledgedNotificationId : Option Int := none

section Cycles

variable (scanner : JsonScanner) (reader : IsoReader)

/-- `DeadManStateStore.load`. -/
def load (access : ReadAccess) : CycleProgram DeadManStatus := do
  match access with
  | .completes => do
      let w ← Program.read
      pythonCall (loadFile scanner reader w.file)
  | .fails => pythonCall (storeFailure "cannot read dead-man state file")
  | .crashes => Program.interrupt .crashed

def runDeadmanCycle (environment : CycleEnvironment) : CycleProgram DeadManCycleResult := do
  let status ← load scanner reader environment.load
  let outcome ← await environment.probe
  let reading ← await environment.clock
  let now ← pythonCall (requireAwareNow reading)
  let advanced ← pythonCall (advanceDeadmanStatus status outcome now)
  -- Persist before any delivery.
  save environment.firstSave advanced
  match advanced.pendingNotifications with
  | [] => Pure.pure { state := advanced.state, pendingCount := 0 }
  | oldest :: _ => do
      send environment.send oldest
      -- Acknowledge only after a successful delivery.
      let acknowledged ←
        pythonCall (acknowledgeDeadmanNotification advanced oldest.notificationId)
      save environment.secondSave acknowledged
      Pure.pure {
        state := acknowledged.state
        pendingCount := acknowledged.pendingNotifications.length
        deliveredNotificationId := some oldest.notificationId
        acknowledgedNotificationId := some oldest.notificationId }

/-- The world after a sequence of cycles, each ended in its own way. -/
def runCycles (environments : List CycleEnvironment) : World :=
  environments.foldl (fun w environment => (runDeadmanCycle scanner reader environment w).2)
    World.initial

end Cycles

end DeadMan
end HermesSentinel
