import HermesSentinel.Domain.Config
import HermesSentinel.Foundation.EventLog
import HermesSentinel.Foundation.Program

namespace HermesSentinel
namespace Central

open Python
open Domain
open Foundation

/-!
# The cooperative runtime

The loop is a program on the log of what it has done: the stop checks and clock
readings it was answered, and the calls it made.  Its collaborators see the log
and may answer or raise as they like.  Arithmetic on clock readings is exact.

The loop runs for as many boundaries as it is given; a run that is not stopped
has no last one, and what holds of every run holds of each of its beginnings.
-/

structure SentinelRuntimeFields where
  monitorIntervalSeconds : Number
  pollIntervalSeconds : Number
  deriving DecidableEq

/-- The checks of the constructor. -/
def SentinelRuntimeFields.postInit (f : SentinelRuntimeFields) : Fallible Unit := do
  requirePositive "monitor_interval_seconds" f.monitorIntervalSeconds
  requirePositive "poll_interval_seconds" f.pollIntervalSeconds

structure SentinelRuntime extends SentinelRuntimeFields where
  accepted : toSentinelRuntimeFields.postInit = .ok ()

/-- The value of a finite number. -/
def finiteValue (value : Number) : ℚ :=
  match value.exact with
  | .finite q => q
  | _ => 0

theorem finiteValue_positive {name : String} {value : Number}
    (positive : requirePositive name value = .ok ()) : 0 < finiteValue value := by
  unfold requirePositive at positive
  rw [bind_eq_ok] at positive
  rcases positive with ⟨finite, classified, checks⟩
  rw [check_bind_eq_ok, requireNumber_eq_ok, requireNumber_eq_ok] at checks
  rcases checks with ⟨isFinite, notLe⟩
  cases value with
  | int n =>
      have notLeZero : ¬ (n : ℚ) ≤ 0 := of_decide_eq_false notLe
      exact not_le.mp notLeZero
  | float x =>
      cases x with
      | finite q =>
          have notLeZero : ¬ q ≤ 0 := of_decide_eq_false notLe
          exact not_le.mp notLeZero
      | _ =>
          cases classified
          cases isFinite

namespace SentinelRuntime

def monitorInterval (runtime : SentinelRuntime) : ℚ :=
  finiteValue runtime.monitorIntervalSeconds

def pollInterval (runtime : SentinelRuntime) : ℚ :=
  finiteValue runtime.pollIntervalSeconds

theorem intervals_positive (runtime : SentinelRuntime) :
    0 < runtime.monitorInterval ∧ 0 < runtime.pollInterval := by
  have accepted := runtime.accepted
  simp only [SentinelRuntimeFields.postInit, check_bind_eq_ok] at accepted
  exact ⟨finiteValue_positive accepted.1, finiteValue_positive accepted.2⟩

end SentinelRuntime

inductive RuntimeEvent
  /-- The stop predicate answered. -/
  | stopCheck (stop : Bool)
  /-- The clock was read for the schedule check. -/
  | scheduleReading (now : ℚ)
  /-- `MonitoringCycle.run()` was called. -/
  | cycle
  /-- The clock was read when the cycle had returned. -/
  | completionReading (now : ℚ)
  /-- `server.timeout` was set. -/
  | timeout (seconds : ℚ)
  /-- `handle_request()` was called. -/
  | request
  deriving DecidableEq

abbrev RuntimeLog := List RuntimeEvent

/-- `nextafter` is `math.nextafter(completion, math.inf)`. -/
structure RuntimeCollaborators where
  stop : RuntimeLog -> Fallible Bool
  monotonic : RuntimeLog -> Fallible ℚ
  runCycle : RuntimeLog -> Fallible Unit
  handleRequest : RuntimeLog -> Fallible Unit
  nextafter : ℚ -> ℚ

section

variable (runtime : SentinelRuntime) (collaborators : RuntimeCollaborators)

def record (event : RuntimeEvent) : Program Raised RuntimeLog Unit :=
  Program.update fun log => log ++ [event]

/-- A call whose answer is recorded. -/
def ask {α : Type} (answer : RuntimeLog -> Fallible α) (event : α -> RuntimeEvent) :
    Program Raised RuntimeLog α := do
  let log ← Program.read
  let value ← Program.lift (answer log)
  record (event value)
  pure value

/-- A call that is recorded as it is made. -/
def call (effect : RuntimeLog -> Fallible Unit) (event : RuntimeEvent) :
    Program Raised RuntimeLog Unit := do
  record event
  let log ← Program.read
  Program.lift (effect log)

def deadlineAfter (completion interval : ℚ) : ℚ :=
  let deadline := completion + interval
  if deadline ≤ completion then collaborators.nextafter completion else deadline

/-- The cycle where it is due: the last reading and the next due point. -/
def runDueCycle (now nextDue : ℚ) : Program Raised RuntimeLog (ℚ × ℚ) :=
  if nextDue ≤ now then do
    call collaborators.runCycle .cycle
    let now ← ask collaborators.monotonic .completionReading
    pure (now, deadlineAfter collaborators now runtime.monitorInterval)
  else pure (now, nextDue)

/-- One iteration after its stop check: it leaves the next due point. -/
def iterate (nextDue : Option ℚ) : Program Raised RuntimeLog ℚ := do
  let now ← ask collaborators.monotonic .scheduleReading
  let scheduled ← runDueCycle runtime collaborators now (nextDue.getD now)
  let remaining := max (scheduled.2 - scheduled.1) 0
  record (.timeout (min runtime.pollInterval remaining))
  call collaborators.handleRequest .request
  pure scheduled.2

/-- `run_forever`, up to a number of loop boundaries. -/
def runForever : Nat -> Option ℚ -> Program Raised RuntimeLog Unit
  | 0, _ => pure ()
  | boundaries + 1, nextDue => do
      let stop ← ask collaborators.stop .stopCheck
      if stop = true then pure ()
      else do
        let due ← iterate runtime collaborators nextDue
        runForever boundaries (some due)

end

end Central
end HermesSentinel
