import HermesSentinel.Central.Runtime

namespace HermesSentinel
namespace Central

open Python
open Domain
open Foundation

/-!
# The cooperative schedule

`Allowed` says of each thing the loop does what it must have done before.  A log
in which everything is allowed has its stop checks, cycles and requests in the
promised order and its waits within their bounds.
-/

/-- The reading that completed the last cycle. -/
def lastCompletion (log : RuntimeLog) : Option ℚ :=
  log.reverse.findSome? fun event =>
    match event with
    | .completionReading now => some now
    | _ => none

/-- The schedule check of an iteration: the readings from its stop check on. -/
structure ScheduleChecked (runtime : SentinelRuntime) (log earlier : RuntimeLog) (last : ℚ) : Prop where
  shape : exists now, (log = earlier ++ [.stopCheck false, .scheduleReading now] ∧ last = now ∧
      exists completion, lastCompletion earlier = some completion ∧
        now < completion + runtime.monitorInterval) ∨
    (log = earlier ++ [.stopCheck false, .scheduleReading now, .cycle, .completionReading last] ∧
      forall completion, lastCompletion earlier = some completion ->
        completion + runtime.monitorInterval ≤ now)

/-- A request comes after a schedule check of its own iteration, in which the
cycle has run if it was due, and after a bounded timeout. -/
def RequestAllowed (runtime : SentinelRuntime) (before : RuntimeLog) : Prop :=
  exists checked earlier last seconds completion, before = checked ++ [.timeout seconds] ∧
    ScheduleChecked runtime checked earlier last ∧
    RuntimeEvent.cycle ∈ before ∧
    0 ≤ seconds ∧ seconds ≤ runtime.pollInterval ∧
    lastCompletion before = some completion ∧
    last + seconds ≤ completion + runtime.monitorInterval

def Allowed (runtime : SentinelRuntime) (before : RuntimeLog) : RuntimeEvent -> Prop
  -- Each boundary comes at the start or after one request.
  | .stopCheck _ => before = [] ∨ exists earlier, before = earlier ++ [.request]
  | .scheduleReading _ => exists earlier, before = earlier ++ [.stopCheck false]
  -- A cycle starts an interval after the completion of the last, or later.
  | .cycle => exists earlier now, before = earlier ++ [.stopCheck false, .scheduleReading now] ∧
      forall completion, lastCompletion earlier = some completion ->
        completion + runtime.monitorInterval ≤ now
  | .completionReading _ => exists earlier, before = earlier ++ [.cycle]
  | .timeout _ => exists earlier last, ScheduleChecked runtime before earlier last
  | .request => RequestAllowed runtime before

theorem lastCompletion_concat (log : RuntimeLog) (event : RuntimeEvent) :
    lastCompletion (log ++ [event]) =
      match event with
      | .completionReading now => some now
      | _ => lastCompletion log := by
  unfold lastCompletion
  rw [List.reverse_append, List.reverse_singleton, List.singleton_append, List.findSome?_cons]
  cases event <;> rfl

theorem deadlineAfter_eq (collaborators : RuntimeCollaborators) {interval : ℚ}
    (positive : 0 < interval) (completion : ℚ) :
    deadlineAfter collaborators completion interval = completion + interval := by
  unfold deadlineAfter
  dsimp only
  rw [if_neg]
  linarith

section

variable {runtime : SentinelRuntime} {collaborators : RuntimeCollaborators}

/-- What an exception leaves behind as well. -/
def Orderly (runtime : SentinelRuntime) (log : RuntimeLog) : Prop :=
  Justified (Allowed runtime) log

theorem record_spec {event : RuntimeEvent} {pre : RuntimeLog -> Prop}
    {post : Unit -> RuntimeLog -> Prop} {abort : Raised -> RuntimeLog -> Prop}
    (holds : forall log, pre log -> post () (log ++ [event])) :
    Program.Spec pre (record event) post abort :=
  Program.Spec.update holds

theorem ask_spec {α : Type} {answer : RuntimeLog -> Fallible α} {event : α -> RuntimeEvent}
    {pre : RuntimeLog -> Prop} {post : α -> RuntimeLog -> Prop}
    {abort : Raised -> RuntimeLog -> Prop}
    (holds : forall log value, pre log -> post value (log ++ [event value]))
    (kept : forall e log, pre log -> abort e log) :
    Program.Spec pre (ask answer event) post abort := by
  intro log before
  simp only [ask, record, bind, pure, Program.bind, Program.pure, Program.read, Program.lift,
    Program.update]
  cases answer log with
  | ok value => exact holds log value before
  | error e => exact kept e log before

theorem call_spec {effect : RuntimeLog -> Fallible Unit} {event : RuntimeEvent}
    {pre : RuntimeLog -> Prop} {post : Unit -> RuntimeLog -> Prop}
    {abort : Raised -> RuntimeLog -> Prop}
    (holds : forall log, pre log -> post () (log ++ [event]))
    (kept : forall e log, pre log -> abort e (log ++ [event])) :
    Program.Spec pre (call effect event) post abort := by
  intro log before
  simp only [call, record, bind, Program.bind, Program.read, Program.lift, Program.update]
  cases effect (log ++ [event]) with
  | ok _ => exact holds log before
  | error e => exact kept e log before

/-- What holds at a loop boundary. -/
structure Boundary (runtime : SentinelRuntime) (nextDue : Option ℚ) (log : RuntimeLog) : Prop where
  orderly : Orderly runtime log
  boundary : log = [] ∨ exists earlier, log = earlier ++ [.request]
  due : nextDue = (lastCompletion log).map (fun completion => completion + runtime.monitorInterval)
  cycled : forall completion, lastCompletion log = some completion -> RuntimeEvent.cycle ∈ log

/-- What holds after the schedule check of an iteration. -/
structure Scheduled (runtime : SentinelRuntime) (last due : ℚ) (log : RuntimeLog) : Prop where
  orderly : Orderly runtime log
  checked : exists earlier, ScheduleChecked runtime log earlier last
  completion : exists completion, lastCompletion log = some completion ∧
    due = completion + runtime.monitorInterval
  cycled : RuntimeEvent.cycle ∈ log
  ahead : last < due

theorem runDueCycle_spec (runtime : SentinelRuntime) (collaborators : RuntimeCollaborators)
    (nextDue : Option ℚ) (now : ℚ) :
    Program.Spec
      (fun log => Orderly runtime log ∧ exists earlier, Boundary runtime nextDue earlier ∧
        log = earlier ++ [.stopCheck false, .scheduleReading now])
      (runDueCycle runtime collaborators now (nextDue.getD now))
      (fun scheduled => Scheduled runtime scheduled.1 scheduled.2)
      (fun _ => Orderly runtime) := by
  have positive := runtime.intervals_positive.1
  unfold runDueCycle
  by_cases due : nextDue.getD now ≤ now
  · rw [if_pos due]
    have reached (earlier : RuntimeLog) (before : Boundary runtime nextDue earlier) :
        forall completion, lastCompletion earlier = some completion ->
          completion + runtime.monitorInterval ≤ now := by
      intro completion last
      have dueThen := before.due
      rw [last, Option.map_some] at dueThen
      rw [dueThen, Option.getD_some] at due
      exact due
    have started (earlier : RuntimeLog) (before : Boundary runtime nextDue earlier)
        (orderly : Orderly runtime (earlier ++ [.stopCheck false, .scheduleReading now])) :
        Orderly runtime (earlier ++ [.stopCheck false, .scheduleReading now] ++ [.cycle]) := by
      have allowed : Allowed runtime (earlier ++ [.stopCheck false, .scheduleReading now]) .cycle :=
        ⟨earlier, now, rfl, reached earlier before⟩
      exact orderly.concat allowed
    refine Program.Spec.bind (?_ : Program.Spec _ _ (fun _ log => Orderly runtime log ∧
      exists earlier, Boundary runtime nextDue earlier ∧
        log = earlier ++ [.stopCheck false, .scheduleReading now] ++ [.cycle]) _) ?_
    · apply call_spec
      · rintro log ⟨orderly, earlier, before, rfl⟩
        exact ⟨started earlier before orderly, earlier, before, rfl⟩
      · rintro e log ⟨orderly, earlier, before, rfl⟩
        exact started earlier before orderly
    · intro _
      refine Program.Spec.bind (?_ : Program.Spec _ _ (fun done log => Scheduled runtime done
        (deadlineAfter collaborators done runtime.monitorInterval) log) _) ?_
      · apply ask_spec
        · rintro log done ⟨orderly, earlier, before, rfl⟩
          rw [deadlineAfter_eq collaborators positive]
          constructor
          case orderly =>
            have allowed : Allowed runtime (earlier ++ [.stopCheck false, .scheduleReading now] ++
                [.cycle]) (.completionReading done) := ⟨_, rfl⟩
            exact orderly.concat allowed
          case checked =>
            refine ⟨earlier, ⟨now, .inr ⟨?_, reached earlier before⟩⟩⟩
            rw [List.append_assoc, List.append_assoc]
            rfl
          case completion => exact ⟨done, lastCompletion_concat _ _, rfl⟩
          case cycled =>
            apply List.mem_append_left
            exact List.mem_append_right _ (List.mem_singleton.mpr rfl)
          case ahead => linarith
        · rintro e log ⟨orderly, _⟩
          exact orderly
      · intro done
        exact Program.Spec.pure fun log scheduled => scheduled
  · rw [if_neg due]
    apply Program.Spec.pure
    rintro log ⟨orderly, earlier, before, rfl⟩
    cases last : lastCompletion earlier with
    | none =>
        have dueThen := before.due
        rw [last, Option.map_none] at dueThen
        rw [dueThen, Option.getD_none] at due
        exact absurd (le_refl now) due
    | some completion =>
        have dueThen := before.due
        rw [last, Option.map_some] at dueThen
        rw [dueThen, Option.getD_some, not_le] at due
        have same : lastCompletion (earlier ++ [.stopCheck false, .scheduleReading now]) =
            some completion := by
          have split : earlier ++ [RuntimeEvent.stopCheck false, .scheduleReading now] =
              (earlier ++ [.stopCheck false]) ++ [.scheduleReading now] := by
            rw [List.append_assoc]
            rfl
          rw [split, lastCompletion_concat, lastCompletion_concat]
          exact last
        rw [dueThen, Option.getD_some]
        constructor
        case orderly => exact orderly
        case checked => exact ⟨earlier, ⟨now, .inl ⟨rfl, rfl, completion, last, due⟩⟩⟩
        case completion => exact ⟨completion, same, rfl⟩
        case cycled => exact List.mem_append_left _ (before.cycled completion last)
        case ahead => exact due

/-- After the schedule check the request is allowed, with this timeout. -/
theorem Scheduled.request {last due : ℚ} {checked : RuntimeLog}
    (scheduled : Scheduled runtime last due checked) :
    RequestAllowed runtime
      (checked ++ [.timeout (min runtime.pollInterval (max (due - last) 0))]) := by
  have positive := runtime.intervals_positive.2
  have ahead := scheduled.ahead
  rcases scheduled.checked with ⟨earlier, shape⟩
  rcases scheduled.completion with ⟨completion, completed, dueThen⟩
  have remaining : max (due - last) 0 = due - last := max_eq_left (by linarith)
  refine ⟨checked, earlier, last, _, completion, rfl, shape, ?_, ?_, ?_, ?_, ?_⟩
  · exact List.mem_append_left _ scheduled.cycled
  · exact le_min positive.le (le_max_right _ _)
  · exact min_le_left _ _
  · rw [lastCompletion_concat]
    exact completed
  · have bounded : min runtime.pollInterval (max (due - last) 0) ≤ due - last := by
      rw [remaining]
      exact min_le_right _ _
    linarith

theorem iterate_spec (runtime : SentinelRuntime) (collaborators : RuntimeCollaborators)
    (nextDue : Option ℚ) :
    Program.Spec
      (fun log => Orderly runtime log ∧ exists earlier, Boundary runtime nextDue earlier ∧
        log = earlier ++ [.stopCheck false])
      (iterate runtime collaborators nextDue)
      (fun due => Boundary runtime (some due))
      (fun _ => Orderly runtime) := by
  unfold iterate
  refine Program.Spec.bind (?_ : Program.Spec _ _ (fun now log => Orderly runtime log ∧
    exists earlier, Boundary runtime nextDue earlier ∧
      log = earlier ++ [.stopCheck false, .scheduleReading now]) _) ?_
  · apply ask_spec
    · rintro log now ⟨orderly, earlier, before, rfl⟩
      have allowed : Allowed runtime (earlier ++ [.stopCheck false]) (.scheduleReading now) :=
        ⟨earlier, rfl⟩
      refine ⟨orderly.concat allowed, earlier, before, ?_⟩
      rw [List.append_assoc]
      rfl
    · rintro e log ⟨orderly, _⟩
      exact orderly
  · intro now
    apply Program.Spec.bind (runDueCycle_spec runtime collaborators nextDue now)
    rintro ⟨last, due⟩
    refine Program.Spec.bind (?_ : Program.Spec _ _ (fun _ log => Orderly runtime log ∧
      exists checked, Scheduled runtime last due checked ∧
        log = checked ++ [.timeout (min runtime.pollInterval (max (due - last) 0))]) _) ?_
    · apply record_spec
      intro checked scheduled
      have allowed : Allowed runtime checked
          (.timeout (min runtime.pollInterval (max (due - last) 0))) := by
        rcases scheduled.checked with ⟨earlier, shape⟩
        exact ⟨earlier, last, shape⟩
      exact ⟨scheduled.orderly.concat allowed, checked, scheduled, rfl⟩
    · intro _
      have served (checked : RuntimeLog) (scheduled : Scheduled runtime last due checked)
          (orderly : Orderly runtime
            (checked ++ [.timeout (min runtime.pollInterval (max (due - last) 0))])) :
          Orderly runtime
            (checked ++ [.timeout (min runtime.pollInterval (max (due - last) 0))] ++ [.request]) := by
        have allowed : Allowed runtime
            (checked ++ [.timeout (min runtime.pollInterval (max (due - last) 0))]) .request :=
          scheduled.request
        exact orderly.concat allowed
      refine Program.Spec.bind (?_ : Program.Spec _ _ (fun _ => Boundary runtime (some due)) _) ?_
      · apply call_spec
        · rintro log ⟨orderly, checked, scheduled, rfl⟩
          rcases scheduled.completion with ⟨completion, completed, dueThen⟩
          have same : lastCompletion (checked ++
              [.timeout (min runtime.pollInterval (max (due - last) 0))] ++ [.request]) =
                some completion := by
            rw [lastCompletion_concat, lastCompletion_concat]
            exact completed
          constructor
          case orderly => exact served checked scheduled orderly
          case boundary => exact .inr ⟨_, rfl⟩
          case due => rw [same, dueThen, Option.map_some]
          case cycled =>
            intro _ _
            exact List.mem_append_left _ (List.mem_append_left _ scheduled.cycled)
        · rintro e log ⟨orderly, checked, scheduled, rfl⟩
          exact served checked scheduled orderly
      · intro _
        exact Program.Spec.pure fun log boundary => boundary

/-! ## Whole runs -/

theorem runForever_spec (runtime : SentinelRuntime) (collaborators : RuntimeCollaborators)
    (boundaries : Nat) : forall nextDue,
    Program.Spec (Boundary runtime nextDue) (runForever runtime collaborators boundaries nextDue)
      (fun _ => Orderly runtime) (fun _ => Orderly runtime) := by
  induction boundaries with
  | zero =>
      intro nextDue
      exact Program.Spec.pure fun log boundary => boundary.orderly
  | succ boundaries inductionHypothesis =>
      intro nextDue
      unfold runForever
      refine Program.Spec.bind (?_ : Program.Spec _ _ (fun stop log => Orderly runtime log ∧
        exists earlier, Boundary runtime nextDue earlier ∧
          log = earlier ++ [.stopCheck stop]) _) ?_
      · apply ask_spec
        · intro log stop before
          have allowed : Allowed runtime log (.stopCheck stop) := before.boundary
          exact ⟨before.orderly.concat allowed, log, before, rfl⟩
        · intro e log before
          exact before.orderly
      · intro stop
        cases stop with
        | true => exact Program.Spec.pure fun log stopped => stopped.1
        | false =>
            apply Program.Spec.bind (iterate_spec runtime collaborators nextDue)
            intro due
            exact inductionHypothesis (some due)

end

theorem boundary_start (runtime : SentinelRuntime) : Boundary runtime none [] := by
  constructor
  case orderly => exact justified_nil _
  case boundary => exact .inl rfl
  case due => rfl
  case cycled =>
    intro completion impossible
    cases impossible

/-- Everything but a stop check comes after a passed one. -/
theorem Orderly.guarded {runtime : SentinelRuntime} {log : RuntimeLog}
    (orderly : Orderly runtime log) (before : RuntimeLog) (event : RuntimeEvent)
    (after : RuntimeLog) (shape : log = before ++ event :: after)
    (notStop : forall stop, event ≠ .stopCheck stop) : RuntimeEvent.stopCheck false ∈ before := by
  have allowed := orderly before event after shape
  have checkedMember {checked earlier : RuntimeLog} {last : ℚ}
      (checks : ScheduleChecked runtime checked earlier last) :
      RuntimeEvent.stopCheck false ∈ checked := by
    rcases checks.shape with ⟨now, ⟨same, _⟩ | ⟨same, _⟩⟩
    · rw [same]
      exact List.mem_append_right _ List.mem_cons_self
    · rw [same]
      exact List.mem_append_right _ List.mem_cons_self
  cases event with
  | stopCheck stop => exact absurd rfl (notStop stop)
  | scheduleReading now =>
      rcases allowed with ⟨earlier, rfl⟩
      exact List.mem_append_right _ List.mem_cons_self
  | cycle =>
      rcases allowed with ⟨earlier, now, rfl, _⟩
      exact List.mem_append_right _ List.mem_cons_self
  | completionReading now =>
      rcases allowed with ⟨earlier, rfl⟩
      have called := orderly earlier .cycle (.completionReading now :: after) (by
        rw [shape, List.append_assoc]
        rfl)
      rcases called with ⟨first, reading, rfl, _⟩
      exact List.mem_append_left _ (List.mem_append_right _ List.mem_cons_self)
  | timeout seconds =>
      rcases allowed with ⟨earlier, last, checks⟩
      exact checkedMember checks
  | request =>
      rcases allowed with ⟨checked, earlier, last, seconds, completion, rfl, checks, _⟩
      exact List.mem_append_left _ (checkedMember checks)

/-- Nothing is allowed after a stop. -/
theorem not_allowed_stopped (runtime : SentinelRuntime) (before : RuntimeLog) (event : RuntimeEvent) :
    ¬ Allowed runtime (before ++ [.stopCheck true]) event := by
  have newest {earlier : RuntimeLog} {last : RuntimeEvent}
      (same : before ++ [.stopCheck true] = earlier ++ [last]) : last = .stopCheck true := by
    have ends := (List.append_inj' same rfl).2
    exact (List.head_eq_of_cons_eq ends).symm
  have unchecked {earlier : RuntimeLog} {last : ℚ} :
      ¬ ScheduleChecked runtime (before ++ [.stopCheck true]) earlier last := by
    intro checked
    rcases checked.shape with ⟨now, ⟨same, _⟩ | ⟨same, _⟩⟩
    · rw [List.append_cons earlier] at same
      cases newest same
    · rw [List.append_cons earlier, List.append_cons _ (RuntimeEvent.scheduleReading now),
        List.append_cons _ RuntimeEvent.cycle] at same
      cases newest same
  intro allowed
  cases event with
  | stopCheck stop =>
      rcases allowed with empty | ⟨earlier, same⟩
      · exact List.append_ne_nil_of_right_ne_nil before (List.cons_ne_nil _ _) empty
      · cases newest same
  | scheduleReading now =>
      rcases allowed with ⟨earlier, same⟩
      cases newest same
  | cycle =>
      rcases allowed with ⟨earlier, now, same, _⟩
      rw [List.append_cons earlier] at same
      cases newest same
  | completionReading now =>
      rcases allowed with ⟨earlier, same⟩
      cases newest same
  | timeout seconds =>
      rcases allowed with ⟨earlier, last, checked⟩
      exact unchecked checked
  | request =>
      rcases allowed with ⟨checked, earlier, last, seconds, completion, same, _⟩
      cases newest same

/-- What every run of the loop does, however far it is followed. -/
structure ScheduleContract (runtime : SentinelRuntime) (log : RuntimeLog) : Prop where
  /-- Everything the loop does is allowed by what it has done before. -/
  orderly : forall before event after, log = before ++ event :: after ->
    Allowed runtime before event
  /-- Nothing is read, run or served before the first passed stop check. -/
  guarded : forall before event after, log = before ++ event :: after ->
    (forall stop, event ≠ .stopCheck stop) -> RuntimeEvent.stopCheck false ∈ before
  /-- After a stop nothing follows. -/
  stopped : forall before after, log = before ++ .stopCheck true :: after -> after = []

theorem cooperative_schedule (runtime : SentinelRuntime) (collaborators : RuntimeCollaborators)
    (boundaries : Nat) :
    ScheduleContract runtime (runForever runtime collaborators boundaries none []).2 := by
  have orderly := Program.Spec.iff_final.mp (runForever_spec runtime collaborators boundaries none)
    [] (boundary_start runtime)
  constructor
  case orderly => exact orderly
  case guarded => exact orderly.guarded
  case stopped =>
    intro before after shape
    cases after with
    | nil => rfl
    | cons event rest =>
        exfalso
        have shown : (runForever runtime collaborators boundaries none []).2 =
            (before ++ [.stopCheck true]) ++ event :: rest := by
          rw [shape, List.append_assoc]
          rfl
        exact not_allowed_stopped runtime before event
          (orderly (before ++ [.stopCheck true]) event rest shown)

end Central
end HermesSentinel
