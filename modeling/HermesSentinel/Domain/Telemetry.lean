import HermesSentinel.Domain.Config
import HermesSentinel.Python.DateTime

namespace HermesSentinel
namespace Domain

open Python

/-!
# Telemetry and host states

The values exchanged between the reporter, the store and the health engine.
The measured quantities are floats: the wire decoder produces nothing else, and
a column of the database holds nothing else.
-/

def requireFinite (name : String) (value : PyFloat) : Fallible Unit :=
  require (value.isFinite = true) s!"{name} must be a finite number"

def requireNonNegative (name : String) (value : PyFloat) : Fallible Unit := do
  requireFinite name value
  require (value.lt PyFloat.zero = false) s!"{name} must be >= 0"

def requirePercent (name : String) (value : PyFloat) : Fallible Unit := do
  requireFinite name value
  require (PyFloat.zero.le value = true ∧ value.le PyFloat.hundred = true)
    s!"{name} must be within [0, 100]"

inductive HostState
  | healthy
  | degraded
  | down
  deriving DecidableEq, Repr

def HostState.value : HostState -> String
  | .healthy => "healthy"
  | .degraded => "degraded"
  | .down => "down"

structure LoadAverageFields where
  one : PyFloat
  five : PyFloat
  fifteen : PyFloat
  deriving DecidableEq

def LoadAverageFields.postInit (f : LoadAverageFields) : Fallible Unit := do
  requireNonNegative "load.one" f.one
  requireNonNegative "load.five" f.five
  requireNonNegative "load.fifteen" f.fifteen

structure LoadAverage extends LoadAverageFields where
  accepted : toLoadAverageFields.postInit = .ok ()
  deriving DecidableEq

def LoadAverage.make (fields : LoadAverageFields) : Fallible LoadAverage :=
  construct LoadAverageFields.postInit LoadAverage.mk fields

structure ResourceUsageFields where
  used : PyFloat
  total : PyFloat
  percent : PyFloat
  deriving DecidableEq

def ResourceUsageFields.postInit (f : ResourceUsageFields) : Fallible Unit := do
  requireNonNegative "used" f.used
  requireNonNegative "total" f.total
  requirePercent "percent" f.percent
  if f.total = PyFloat.zero then
    require (f.used = PyFloat.zero) "used must be 0 when total is 0 (resource absent)"
    require (f.percent = PyFloat.zero) "percent must be 0 when total is 0 (resource absent)"
  else
    require (f.total.lt f.used = false) "used must not exceed total"

structure ResourceUsage extends ResourceUsageFields where
  accepted : toResourceUsageFields.postInit = .ok ()
  deriving DecidableEq

def ResourceUsage.make (fields : ResourceUsageFields) : Fallible ResourceUsage :=
  construct ResourceUsageFields.postInit ResourceUsage.mk fields

structure HostTelemetryFields where
  host : PyStr
  timestamp : DateTime
  uptimeSeconds : PyFloat
  load : LoadAverage
  cpuPercent : PyFloat
  ram : ResourceUsage
  swap : ResourceUsage
  rootFilesystem : ResourceUsage
  rootInodes : ResourceUsage
  deriving DecidableEq

def HostTelemetryFields.postInit (f : HostTelemetryFields) : Fallible Unit := do
  requireNonEmpty "host" f.host
  require (f.timestamp.tzinfo.isSome = true) "timestamp must be timezone-aware"
  requireNonNegative "uptime_seconds" f.uptimeSeconds
  requirePercent "cpu_percent" f.cpuPercent

structure HostTelemetry extends HostTelemetryFields where
  accepted : toHostTelemetryFields.postInit = .ok ()
  deriving DecidableEq

def HostTelemetry.make (fields : HostTelemetryFields) : Fallible HostTelemetry :=
  construct HostTelemetryFields.postInit HostTelemetry.mk fields

/-- The arguments of a transition.  `confirmedAt` is the source's field `at`. -/
structure HostTransitionFields where
  host : PyStr
  fromState : HostState
  toState : HostState
  confirmedAt : DateTime
  deriving DecidableEq

def HostTransitionFields.postInit (f : HostTransitionFields) : Fallible Unit := do
  requireNonEmpty "host" f.host
  require (f.confirmedAt.tzinfo.isSome = true) "at must be timezone-aware"
  require (f.fromState ≠ f.toState) "transition must change the host state"

structure HostTransition extends HostTransitionFields where
  accepted : toHostTransitionFields.postInit = .ok ()
  deriving DecidableEq

namespace HostTransition

def make (fields : HostTransitionFields) : Fallible HostTransition :=
  construct HostTransitionFields.postInit HostTransition.mk fields

def isDownEvent (t : HostTransition) : Bool :=
  decide (t.toState = .down)

def isRecoveryEvent (t : HostTransition) : Bool :=
  decide (t.fromState = .down ∧ t.toState ≠ .down)

end HostTransition

end Domain
end HermesSentinel
