import HermesSentinel.Central.Schedule
import Mathlib.Data.List.Infix
import Mathlib.Data.List.Perm.Subperm

namespace HermesSentinel
namespace Central

open Python
open Domain
open Foundation

/-!
# The cooperative stop

A stop signal only marks a request that the loop looks at on its next boundary.
From the arrival of a signal on, the loop finishes the iteration it is in and
passes no further stop check: the phases of an iteration come in their order, so
what is left is at most one cycle and one request.
-/

/-- `_StopRequest`. -/
structure StopRequest where
  requested : Bool

namespace StopRequest

def new : StopRequest where
  requested := false

def request (_ : StopRequest) : StopRequest where
  requested := true

/-- `__call__`, the stop predicate of the loop. -/
def call (stop : StopRequest) : Bool :=
  stop.requested

/-- The handler runs once for each signal. -/
def receive (stop : StopRequest) : Nat -> StopRequest
  | 0 => stop
  | signals + 1 => (stop.receive signals).request

end StopRequest

/-- How many stop signals arrive while the log is this. -/
abbrev Signals := RuntimeLog -> Nat

/-- The request once the signals up to here have been handled. -/
def stopRequestAt (signals : Signals) (log : RuntimeLog) : StopRequest :=
  log.inits.foldl (fun stop before => stop.receive (signals before)) StopRequest.new

/-- The loop with the stop predicate of the process. -/
def RuntimeCollaborators.stoppedBy (collaborators : RuntimeCollaborators) (signals : Signals) :
    RuntimeCollaborators :=
  { collaborators with stop := fun log => .ok (stopRequestAt signals log).call }

theorem StopRequest.receive_call (stop : StopRequest) (signals : Nat) :
    (stop.receive signals).call = (stop.call || decide (0 < signals)) := by
  cases signals with
  | zero => simp [receive]
  | succ signals => simp [receive, request, call]

/-- The request is set by the first signal and stays set. -/
theorem stopRequestAt_call (signals : Signals) (log : RuntimeLog) :
    (stopRequestAt signals log).call = true ↔ exists before, before <+: log ∧ 0 < signals before := by
  have folded (prefixes : List RuntimeLog) (stop : StopRequest) :
      (prefixes.foldl (fun stop before => stop.receive (signals before)) stop).call = true ↔
        stop.call = true ∨ exists before, before ∈ prefixes ∧ 0 < signals before := by
    induction prefixes generalizing stop with
    | nil => simp
    | cons first rest inductionHypothesis =>
        rw [List.foldl_cons, inductionHypothesis, StopRequest.receive_call]
        simp [or_assoc]
  unfold stopRequestAt
  rw [folded]
  simp [StopRequest.new, StopRequest.call, List.mem_inits]

/-- The place of an event in its iteration; a stop comes after everything. -/
def phase : RuntimeEvent -> Nat
  | .stopCheck false => 0
  | .scheduleReading _ => 1
  | .cycle => 2
  | .completionReading _ => 3
  | .timeout _ => 4
  | .request => 5
  | .stopCheck true => 6

section

variable {runtime : SentinelRuntime} {log : RuntimeLog}

/-- Everything but a passed stop check comes later in its iteration than what
was done right before. -/
theorem Orderly.phase_lt (orderly : Orderly runtime log) {before after : RuntimeLog}
    {first second : RuntimeEvent} (shape : log = before ++ first :: second :: after)
    (unpassed : second ≠ .stopCheck false) : phase first < phase second := by
  have allowed := orderly (before ++ [first]) second after (by rw [shape, List.append_assoc]; rfl)
  have newest {earlier : RuntimeLog} {last : RuntimeEvent}
      (same : before ++ [first] = earlier ++ [last]) : first = last :=
    List.singleton_inj.mp (List.append_inj' same rfl).2
  cases second with
  | stopCheck stop =>
      cases stop with
      | false => exact absurd rfl unpassed
      | true =>
          rcases allowed with empty | ⟨earlier, same⟩
          · exact absurd empty (List.append_ne_nil_of_right_ne_nil before (List.cons_ne_nil _ _))
          · rw [newest same]
            simp [phase]
  | scheduleReading now =>
      rcases allowed with ⟨earlier, same⟩
      rw [newest same]
      simp [phase]
  | cycle =>
      rcases allowed with ⟨earlier, now, same, _⟩
      rw [List.append_cons earlier] at same
      rw [newest same]
      simp [phase]
  | completionReading now =>
      rcases allowed with ⟨earlier, same⟩
      rw [newest same]
      simp [phase]
  | timeout seconds =>
      rcases allowed with ⟨earlier, last, checked⟩
      rcases checked.shape with ⟨now, ⟨same, _⟩ | ⟨same, _⟩⟩
      · rw [List.append_cons earlier] at same
        rw [newest same]
        simp [phase]
      · rw [List.append_cons earlier, List.append_cons _ (RuntimeEvent.scheduleReading now),
          List.append_cons _ RuntimeEvent.cycle] at same
        rw [newest same]
        simp [phase]
  | request =>
      rcases allowed with ⟨checked, earlier, last, seconds, completion, same, _⟩
      rw [newest same]
      simp [phase]

/-- Where no stop check is passed the phases only go up. -/
theorem Orderly.ascending (orderly : Orderly runtime log) {before after : RuntimeLog}
    (shape : log = before ++ after) (unpassed : RuntimeEvent.stopCheck false ∉ after) :
    (after.map phase).Pairwise (· < ·) := by
  rw [<- List.isChain_iff_pairwise]
  induction after generalizing before with
  | nil => exact List.IsChain.nil
  | cons first rest inductionHypothesis =>
      have unpassedRest : RuntimeEvent.stopCheck false ∉ rest :=
        fun member => unpassed (List.mem_cons_of_mem first member)
      have chain := inductionHypothesis (shape.trans (List.append_cons before first rest)) unpassedRest
      cases rest with
      | nil => exact List.IsChain.singleton _
      | cons second rest =>
          have later : phase first < phase second := by
            apply orderly.phase_lt shape
            intro passed
            exact unpassedRest (passed ▸ List.mem_cons_self)
          exact chain.cons_cons later

end

/-- Every stop check is answered by what has been requested by then. -/
def Answered (signals : Signals) (log : RuntimeLog) : Prop :=
  Justified (fun before event => forall stop, event = .stopCheck stop ->
    stop = (stopRequestAt signals before).call) log

def isStopCheck : RuntimeEvent -> Bool
  | .stopCheck _ => true
  | _ => false

/-- The loop boundaries that were reached. -/
def stopChecks (log : RuntimeLog) : Nat :=
  log.countP isStopCheck

def LoopStopped (log : RuntimeLog) : Prop :=
  exists earlier, log = earlier ++ [.stopCheck true]

theorem stopChecks_concat (log : RuntimeLog) (event : RuntimeEvent) :
    stopChecks (log ++ [event]) = stopChecks log + if isStopCheck event then 1 else 0 := by
  simp [stopChecks, List.countP_append, List.countP_singleton]

section

variable {runtime : SentinelRuntime} {collaborators : RuntimeCollaborators} {signals : Signals}

/-- What no event but a stop check changes, an iteration keeps. -/
theorem iterate_keeps {holds : RuntimeLog -> Prop} (kept : forall log event,
      isStopCheck event = false -> holds log -> holds (log ++ [event])) (nextDue : Option ℚ) :
    Program.Spec holds (iterate runtime collaborators nextDue) (fun _ => holds) (fun _ => holds) := by
  have asked {answer : RuntimeLog -> Fallible ℚ} {event : ℚ -> RuntimeEvent}
      (other : forall now, isStopCheck (event now) = false) :
      Program.Spec holds (ask answer event) (fun _ => holds) (fun _ => holds) :=
    ask_spec (fun log now before => kept log (event now) (other now) before)
      fun e log before => before
  have called {effect : RuntimeLog -> Fallible Unit} {event : RuntimeEvent}
      (other : isStopCheck event = false) :
      Program.Spec holds (call effect event) (fun _ => holds) (fun _ => holds) :=
    call_spec (fun log before => kept log event other before)
      fun e log before => kept log event other before
  refine .bind (asked fun _ => rfl) fun now => ?_
  have due : Program.Spec holds (runDueCycle runtime collaborators now (nextDue.getD now))
      (fun _ => holds) (fun _ => holds) := by
    unfold runDueCycle
    by_cases reached : nextDue.getD now ≤ now
    · rw [if_pos reached]
      refine .bind (called rfl) fun _ => ?_
      exact .bind (asked fun _ => rfl) fun _ => .pure fun _ before => before
    · rw [if_neg reached]
      exact .pure fun _ before => before
  refine .bind due fun scheduled => ?_
  refine .bind (@record_spec _ holds (fun _ => holds) (fun _ => holds) fun log before =>
    kept log _ rfl before) fun _ => ?_
  exact .bind (called rfl) fun _ => .pure fun _ before => before

theorem runForever_answered (boundaries : Nat) : forall nextDue,
    Program.Spec (Answered signals)
      (runForever runtime (collaborators.stoppedBy signals) boundaries nextDue)
      (fun _ => Answered signals) (fun _ => Answered signals) := by
  have other (log : RuntimeLog) (event : RuntimeEvent) (notCheck : isStopCheck event = false)
      (answered : Answered signals log) : Answered signals (log ++ [event]) := by
    apply Justified.concat answered
    rintro stop rfl
    cases notCheck
  induction boundaries with
  | zero =>
      intro nextDue
      exact .pure fun _ answered => answered
  | succ boundaries inductionHypothesis =>
      intro nextDue
      have checked : Program.Spec (Answered signals)
          (ask (collaborators.stoppedBy signals).stop .stopCheck) (fun _ => Answered signals)
          (fun _ => Answered signals) := by
        intro log answered
        simp only [ask, record, bind, pure, Program.bind, Program.pure, Program.read, Program.lift,
          Program.update, RuntimeCollaborators.stoppedBy]
        apply Justified.concat answered
        rintro stop same
        cases same
        rfl
      refine .bind checked fun stop => ?_
      cases stop with
      | true => exact .pure fun _ answered => answered
      | false => exact .bind (iterate_keeps other nextDue) fun due => inductionHypothesis (some due)

/-- A loop that returns was stopped, or was not followed any further. -/
theorem runForever_stopChecks (boundaries reached : Nat) : forall nextDue,
    Program.Spec (fun log => stopChecks log = reached)
      (runForever runtime collaborators boundaries nextDue)
      (fun _ log => LoopStopped log ∨ stopChecks log = reached + boundaries) (fun _ _ => True) := by
  induction boundaries generalizing reached with
  | zero =>
      intro nextDue
      exact .pure fun _ same => .inr same
  | succ boundaries inductionHypothesis =>
      intro nextDue
      have checked : Program.Spec (fun log => stopChecks log = reached)
          (ask collaborators.stop .stopCheck)
          (fun stop log => (stop = true -> LoopStopped log) ∧ stopChecks log = reached + 1)
          (fun _ _ => True) := by
        apply ask_spec
        · rintro log stop rfl
          constructor
          · rintro rfl
            exact ⟨log, rfl⟩
          · rw [stopChecks_concat]
            rfl
        · intro e log _
          trivial
      refine .bind checked fun stop => ?_
      cases stop with
      | true => exact .pure fun _ stopped => .inl (stopped.1 rfl)
      | false =>
          have kept (log : RuntimeLog) (event : RuntimeEvent) (notCheck : isStopCheck event = false)
              (same : stopChecks log = reached + 1) : stopChecks (log ++ [event]) = reached + 1 := by
            rw [stopChecks_concat, notCheck]
            exact same
          have iterated := @iterate_keeps runtime collaborators _ kept nextDue
          refine .bind (iterated.mono (fun _ before => before.2) (fun _ _ same => same)
            fun _ _ _ => trivial) fun due => ?_
          refine (inductionHypothesis (reached + 1) (some due)).mono (fun _ same => same) ?_
            fun _ _ _ => trivial
          intro _ log ended
          have total : reached + 1 + boundaries = reached + (boundaries + 1) := by omega
          rw [total] at ended
          exact ended

end

/-! ## After a signal -/

/-- What the loop does from the arrival of a stop signal on. -/
structure PromptStop (after : RuntimeLog) : Prop where
  /-- No further stop check is passed. -/
  unpassed : RuntimeEvent.stopCheck false ∉ after
  oneCycle : after.count .cycle ≤ 1
  oneRequest : after.count .request ≤ 1
  /-- The rest of one iteration and the stop check that ends the loop. -/
  bounded : after.length ≤ 6
  last : forall earlier later, after = earlier ++ .stopCheck true :: later -> later = []

theorem phase_le (event : RuntimeEvent) : phase event ≤ 6 := by
  cases event with
  | stopCheck stop => cases stop <;> simp [phase]
  | _ => simp [phase]

theorem phase_pos {event : RuntimeEvent} (unpassed : event ≠ .stopCheck false) : 0 < phase event := by
  cases event with
  | stopCheck stop =>
      cases stop with
      | false => exact absurd rfl unpassed
      | true => simp [phase]
  | _ => simp [phase]

/-- Ascending phases leave room for the rest of one iteration only. -/
theorem PromptStop.of_ascending {after : RuntimeLog}
    (unpassed : RuntimeEvent.stopCheck false ∉ after)
    (ascending : (after.map phase).Pairwise (· < ·)) : PromptStop after := by
  have distinct : after.Nodup := by
    refine List.Pairwise.imp ?_ (List.pairwise_map.mp ascending)
    rintro first second less rfl
    exact lt_irrefl _ less
  constructor
  case unpassed => exact unpassed
  case oneCycle => exact List.nodup_iff_count_le_one.mp distinct .cycle
  case oneRequest => exact List.nodup_iff_count_le_one.mp distinct .request
  case bounded =>
    have phases : after.map phase ⊆ [1, 2, 3, 4, 5, 6] := by
      intro place member
      rcases List.mem_map.mp member with ⟨event, occurs, rfl⟩
      have positive := phase_pos fun same : event = .stopCheck false => unpassed (same ▸ occurs)
      have small := phase_le event
      simp only [List.mem_cons, List.not_mem_nil, or_false]
      omega
    have different : (after.map phase).Nodup := ascending.imp fun less => ne_of_lt less
    have short := (List.Nodup.subperm different phases).length_le
    rw [List.length_map] at short
    exact short
  case last =>
    rintro earlier later rfl
    cases later with
    | nil => rfl
    | cons event rest =>
        exfalso
        rw [List.map_append, List.pairwise_append] at ascending
        have above := List.rel_of_pairwise_cons ascending.2.1 (List.mem_map_of_mem List.mem_cons_self)
        exact absurd (phase_le event) (not_le.mpr above)

section

variable {runtime : SentinelRuntime} {collaborators : RuntimeCollaborators} {signals : Signals}

/-- A loop that was not stopped has come to every boundary it was given. -/
theorem runForever_reached {boundaries : Nat} {log : RuntimeLog}
    (returned : runForever runtime collaborators boundaries none [] = (.ok (), log)) :
    LoopStopped log ∨ stopChecks log = boundaries := by
  have ended := @runForever_stopChecks runtime collaborators boundaries 0 none [] rfl
  rw [returned, Nat.zero_add] at ended
  exact ended

/-- Once a signal has arrived no stop check is passed. -/
theorem Answered.unpassed {log before after : RuntimeLog} (answered : Answered signals log)
    (shape : log = before ++ after) (arrived : 0 < signals before) :
    RuntimeEvent.stopCheck false ∉ after := by
  intro member
  rcases List.append_of_mem member with ⟨earlier, later, rfl⟩
  have passed := answered (before ++ earlier) (.stopCheck false) later
    (by rw [shape, List.append_assoc]) false rfl
  have requested : (stopRequestAt signals (before ++ earlier)).call = true :=
    (stopRequestAt_call signals _).mpr ⟨before, List.prefix_append before earlier, arrived⟩
  rw [requested] at passed
  cases passed

/-- When a stop signal has arrived the loop finishes its iteration at most, and
if it is followed to its next boundary and nothing raises it is stopped there. -/
theorem stop_is_prompt (runtime : SentinelRuntime) (collaborators : RuntimeCollaborators)
    (signals : Signals) (boundaries : Nat) (before after : RuntimeLog)
    (shape : (runForever runtime (collaborators.stoppedBy signals) boundaries none []).2 =
      before ++ after) (arrived : 0 < signals before) :
    PromptStop after ∧
      ((runForever runtime (collaborators.stoppedBy signals) boundaries none []).1 = .ok () ->
        stopChecks before < boundaries ->
        LoopStopped (runForever runtime (collaborators.stoppedBy signals) boundaries none []).2) := by
  have orderly := Program.Spec.iff_final.mp
    (runForever_spec runtime (collaborators.stoppedBy signals) boundaries none) []
    (boundary_start runtime)
  have answered := Program.Spec.iff_final.mp
    (@runForever_answered runtime collaborators signals boundaries none) [] (justified_nil _)
  have unpassed := answered.unpassed shape arrived
  constructor
  · exact PromptStop.of_ascending unpassed (orderly.ascending shape unpassed)
  · intro returned ahead
    have run : runForever runtime (collaborators.stoppedBy signals) boundaries none [] =
        (.ok (), before ++ after) := Prod.ext returned shape
    rw [shape]
    rcases runForever_reached run with stopped | all
    · exact stopped
    · have checked : 0 < after.countP isStopCheck := by
        unfold stopChecks at all ahead
        rw [List.countP_append] at all
        omega
      rcases List.countP_pos_iff.mp checked with ⟨event, member, isCheck⟩
      cases event with
      | stopCheck stop =>
          cases stop with
          | false => exact absurd member unpassed
          | true =>
              rcases List.append_of_mem member with ⟨earlier, later, split⟩
              have last := (PromptStop.of_ascending unpassed
                (orderly.ascending shape unpassed)).last earlier later split
              refine ⟨before ++ earlier, ?_⟩
              rw [split, last, List.append_assoc]
      | _ => cases isCheck

end

/-- A loop whose clock and cycles always answer. -/
def idleCollaborators : RuntimeCollaborators where
  stop := fun _ => .ok false
  monotonic := fun _ => .ok 0
  runCycle := fun _ => .ok ()
  handleRequest := fun _ => .ok ()
  nextafter := fun now => now

def minutely : SentinelRuntime where
  monitorIntervalSeconds := .int 60
  pollIntervalSeconds := .int 1
  accepted := by decide +kernel

/-- A signal that arrives when the clock has been read for the schedule. -/
def signalInIteration : Signals := fun log =>
  if log = [.stopCheck false, .scheduleReading 0] then 1 else 0

/-- The due cycle and one request are left, and then the loop stops. -/
theorem stop_is_prompt_inIteration :
    (runForever minutely (idleCollaborators.stoppedBy signalInIteration) 5 none []).2 =
        [.stopCheck false, .scheduleReading 0] ++
          [.cycle, .completionReading 0, .timeout 1, .request, .stopCheck true] ∧
      PromptStop [.cycle, .completionReading 0, .timeout 1, .request, .stopCheck true] ∧
      LoopStopped
        (runForever minutely (idleCollaborators.stoppedBy signalInIteration) 5 none []).2 := by
  have shape : (runForever minutely (idleCollaborators.stoppedBy signalInIteration) 5 none []).2 =
      [.stopCheck false, .scheduleReading 0] ++
        [.cycle, .completionReading 0, .timeout 1, .request, .stopCheck true] := by
    decide +kernel
  have returned :
      (runForever minutely (idleCollaborators.stoppedBy signalInIteration) 5 none []).1 = .ok () := by
    rfl
  have prompt := stop_is_prompt minutely idleCollaborators signalInIteration 5 _ _ shape (by decide)
  exact ⟨shape, prompt.1, prompt.2 returned (by decide)⟩

end Central
end HermesSentinel
