import HermesSentinel.DeadMan.Delivery
import HermesSentinel.Foundation.InOrder

namespace HermesSentinel
namespace DeadMan

open Python
open Foundation

/-!
# How long the backlog lasts

A cycle that returns has handed over and acknowledged the oldest pending
intent, if there was one, and an evaluation allocates at most one.  So the
queue never grows in such a cycle, and where the probes agree it shrinks until
the state they speak for is reached with nothing left to say.

`StatusContent.cyclesLeft` counts the cycles to that point.  Each returning
cycle lowers it by exactly one, whatever was interrupted before.
-/

/-- The state in which a series of equal outcomes ends. -/
def settledState : DeadManProbeOutcome -> DeadManState
  | .failed => .down
  | .healthy => .up

/-- The cycles of this outcome that are left until its state is reached and the
queue is empty. -/
def StatusContent.cyclesLeft (outcome : DeadManProbeOutcome) (c : StatusContent) : Nat :=
  match outcome, c.state with
  | .failed, .down => c.pending.length
  | .failed, _ => max (downConfirmations - c.consecutiveFailures).toNat (c.pending.length + 1)
  | .healthy, .unknown => 1
  | .healthy, .up => c.pending.length
  | .healthy, .down =>
      max (recoveryConfirmations - c.consecutiveSuccesses).toNat c.pending.length

/-- What a returning cycle makes of the evaluated status. -/
inductive Served (s : DeadManStatus) : DeadManStatus -> Prop
  | idle (empty : s.pendingNotifications = []) : Served s s
  | delivered {s' : DeadManStatus} (head : DeadManNotification) (rest : List DeadManNotification)
      (shape : s.pendingNotifications = head :: rest)
      (fields : s'.toStatusFields = acknowledgedFields s.toStatusFields head rest) : Served s s'

theorem Served.unchanged {s s' : DeadManStatus} (served : Served s s') :
    s'.state = s.state ∧ s'.consecutiveFailures = s.consecutiveFailures ∧
      s'.consecutiveSuccesses = s.consecutiveSuccesses ∧
      s'.pendingNotifications = s.pendingNotifications.tail := by
  cases served with
  | idle empty =>
      refine ⟨rfl, rfl, rfl, ?_⟩
      rw [empty]
      rfl
  | delivered head rest shape fields =>
      rw [fields, shape]
      exact ⟨rfl, rfl, rfl, rfl⟩

/-- The queue after a returning cycle: at most one intent was added at the tail,
and the head is gone. -/
theorem Served.queue {s s' s'' : DeadManStatus} {outcome : DeadManProbeOutcome} {now : DateTime}
    (served : Served s' s'') (advanced : advanceDeadmanStatus s outcome now = .ok s') :
    exists more, s'.pendingNotifications = s.pendingNotifications ++ more ∧ more.length ≤ 1 ∧
      s''.pendingNotifications = (s.pendingNotifications ++ more).tail := by
  have evaluated : exists more, s'.pendingNotifications = s.pendingNotifications ++ more ∧
      more.length ≤ 1 := by
    have branch := (advance_cases advanced).2.2
    generalize s'.toStatusFields = after at branch ⊢
    cases branch with
    | recoveredAnnounced down reached current bound acknowledged intent allocated =>
        exact ⟨[intent], rfl, Nat.le_refl 1⟩
    | confirmed notDown reached intent allocated current currentId unacknowledged =>
        exact ⟨[intent], rfl, Nat.le_refl 1⟩
    | _ => exact ⟨[], (List.append_nil _).symm, Nat.zero_le 1⟩
  rcases evaluated with ⟨more, added, single⟩
  refine ⟨more, added, single, ?_⟩
  rw [served.unchanged.2.2.2, added]

/-- A returning cycle lowers the count of its own outcome by one. -/
theorem Served.cyclesLeft {s s' s'' : DeadManStatus} {outcome : DeadManProbeOutcome}
    {now : DateTime} (served : Served s' s'')
    (advanced : advanceDeadmanStatus s outcome now = .ok s') :
    s''.toStatusFields.content.cyclesLeft outcome =
      s.toStatusFields.content.cyclesLeft outcome - 1 := by
  rcases served.unchanged with ⟨state, failures, successes, queue⟩
  have admissible := s.admissible
  have streaks := admissible.streaks
  have branch := (advance_cases advanced).2.2
  simp only [StatusContent.cyclesLeft, StatusFields.content, state, failures, successes, queue,
    List.length_map, List.length_tail]
  generalize s'.toStatusFields = after at branch ⊢
  cases branch with
  | baseline unknown =>
      simp [unknown, (admissible.unknownInitial unknown).2.1]
  | steady up =>
      simp [up]
  | recovering down below =>
      simp [StreaksRest, down, recoveryConfirmations] at streaks below ⊢
      omega
  | recoveredSilently down reached current bound unacknowledged =>
      simp [StreaksRest, down, recoveryConfirmations] at streaks reached ⊢
      omega
  | recoveredAnnounced down reached current bound acknowledged intent allocated =>
      have queue := (binding_of_currentDown admissible bound).2.2
      rw [if_pos acknowledged] at queue
      simp [StreaksRest, down, queue, recoveryConfirmations] at streaks reached ⊢
      omega
  | held down =>
      simp [down]
  | suspecting notDown below =>
      simp [StreaksRest, notDown, downConfirmations] at streaks below ⊢
      omega
  | confirmed notDown reached intent allocated current currentId unacknowledged =>
      simp [StreaksRest, notDown, downConfirmations] at streaks reached ⊢
      omega

/-- Nothing is left exactly when the state is reached and the queue is empty. -/
theorem cyclesLeft_eq_zero {s : DeadManStatus} {outcome : DeadManProbeOutcome} :
    s.toStatusFields.content.cyclesLeft outcome = 0 ↔
      s.state = settledState outcome ∧ s.pendingNotifications = [] := by
  have streaks := s.admissible.streaks
  cases outcome <;> cases state : s.state <;>
    simp [StatusContent.cyclesLeft, StatusFields.content, settledState, state]
  case healthy.down =>
    intro finished
    simp [StreaksRest, state, recoveryConfirmations] at streaks finished
    omega

/-- The program only adds to the log. -/
abbrev Extends (earlier : List Event) {α : Type} (program : CycleProgram α) : Prop :=
  Program.Spec (fun w => earlier <+: w.log) program (fun _ w => earlier <+: w.log)
    (fun _ w => earlier <+: w.log)

section Logs

variable {scanner : JsonScanner} {reader : IsoReader} {earlier : List Event}

theorem pythonCall_extends {α : Type} (call : Fallible α) : Extends earlier (pythonCall call) := by
  cases call with
  | ok value => exact .pure fun _ extended => extended
  | error e => exact .interrupt fun _ extended => extended

theorem await_extends {α : Type} (reply : Reply α) : Extends earlier (await reply) := by
  cases reply with
  | returns value => exact .pure fun _ extended => extended
  | raises e => exact .interrupt fun _ extended => extended
  | crashes => exact .interrupt fun _ extended => extended

theorem load_extends (access : ReadAccess) : Extends earlier (load scanner reader access) := by
  cases access with
  | completes => exact .bind (.read fun _ extended => extended) fun _ => pythonCall_extends _
  | fails => exact .interrupt fun _ extended => extended
  | crashes => exact .interrupt fun _ extended => extended

theorem save_extends (access : WriteAccess) (status : DeadManStatus) :
    Extends earlier (save access status) := by
  refine .bind (pythonCall_extends _) fun data => ?_
  have replaced : Extends earlier (replaceFile data) :=
    .update fun w extended => extended.trans (List.prefix_append _ _)
  cases access with
  | createFails => exact .interrupt fun _ extended => extended
  | writeFails => exact .interrupt fun _ extended => extended
  | replaceFails => exact .interrupt fun _ extended => extended
  | crashes => exact .interrupt fun _ extended => extended
  | crashesReplaced => exact .bind replaced fun _ => .interrupt fun _ extended => extended
  | completes => exact replaced

theorem send_extends (reply : Reply Unit) (notification : DeadManNotification) :
    Extends earlier (send reply notification) :=
  .bind (.update fun _ extended => extended.trans (List.prefix_append _ _)) fun _ =>
    await_extends reply

theorem cycle_extends (environment : CycleEnvironment) :
    Extends earlier (runDeadmanCycle scanner reader environment) := by
  refine .bind (load_extends _) fun s => .bind (await_extends _) fun outcome => ?_
  refine .bind (await_extends _) fun reading => .bind (pythonCall_extends _) fun now => ?_
  refine .bind (pythonCall_extends _) fun s' => .bind (save_extends _ _) fun _ => ?_
  split
  · exact .pure fun _ extended => extended
  · refine .bind (send_extends _ _) fun _ => .bind (pythonCall_extends _) fun s'' => ?_
    exact .bind (save_extends _ _) fun _ => .pure fun _ extended => extended

end Logs

/-! ## A returning cycle -/

/-- The sender was given a notification with this content, and the call returned. -/
def ContentDelivered (log : List Event) (content : IntentContent) : Prop :=
  exists n file, Event.sent n true file ∈ log ∧ n.content = content

/-- What a cycle that returned has made of a snapshot with content `c`. -/
structure CycleServed (c : StatusContent) (environment : CycleEnvironment) (log : List Event)
    (s s' s'' : DeadManStatus) (outcome : DeadManProbeOutcome) (now : DateTime) : Prop where
  content : s.toStatusFields.content = c
  probed : environment.probe = .returns outcome
  advanced : advanceDeadmanStatus s outcome now = .ok s'
  served : Served s' s''
  delivered : forall head rest, s'.pendingNotifications = head :: rest ->
    ContentDelivered log head.content

section Worlds

variable {scanner : JsonScanner} {reader : IsoReader}

theorem load_persisted (access : ReadAccess) (c : StatusContent) :
    Program.Spec (Persisted scanner reader c) (load scanner reader access)
      (fun s w => s.toStatusFields.content = c ∧ Persisted scanner reader c w)
      (Stopped scanner reader) := by
  cases access with
  | completes =>
      intro w persisted
      rcases persisted.loads with ⟨s, loaded, content⟩
      have result : load scanner reader .completes w = (.ok s, w) := by
        show pythonCall (loadFile scanner reader w.file) w = _
        rw [loaded]
        rfl
      rw [result]
      exact ⟨content, persisted⟩
  | fails => exact .interrupt fun _ persisted => ⟨c, persisted⟩
  | crashes => exact .interrupt fun _ persisted => ⟨c, persisted⟩

/-- The acknowledged snapshot is saved, and what was delivered stays in the log. -/
theorem secondSave_spec {s s' : DeadManStatus} {n : DeadManNotification}
    {rest : List DeadManNotification} (shape : s.pendingNotifications = n :: rest)
    (acknowledged : acknowledgeDeadmanNotification s n.notificationId = .ok s')
    (access : WriteAccess) :
    Program.Spec (HandedOver scanner reader s n) (save access s')
      (fun _ w => Persisted scanner reader s'.toStatusFields.content w ∧
        ContentDelivered w.log n.content) (Stopped scanner reader) := by
  intro w handed
  have saved : Program.Spec (HandedOver scanner reader s n) (save access s')
      (fun _ => Persisted scanner reader s'.toStatusFields.content) (Stopped scanner reader) :=
    save_spec access (fun _ holds => ⟨_, holds.1⟩) fun _ _ holds serialised =>
      secondSave_replaces shape acknowledged holds serialised
  have extended : Extends w.log (save access s') := save_extends access s'
  refine (saved.both extended).mono (fun _ holds => holds) ?_ (fun _ _ stopped => stopped.1) w
    ⟨handed, List.prefix_rfl⟩
  intro _ w' kept
  rcases handed.2.1 with ⟨file, member⟩
  exact ⟨kept.1, n, file, kept.2.subset member, rfl⟩

/-- A cycle that returns evaluates what is persisted, and persists what is left
after the oldest intent was delivered. -/
theorem cycle_serves (environment : CycleEnvironment) (c : StatusContent) :
    Program.Spec (Persisted scanner reader c) (runDeadmanCycle scanner reader environment)
      (fun _ w => exists s s' s'' outcome now,
        CycleServed c environment w.log s s' s'' outcome now ∧
          Persisted scanner reader s''.toStatusFields.content w)
      (Stopped scanner reader) := by
  refine .bind (load_persisted environment.load c) fun s => .given fun content => ?_
  subst content
  have settled : forall w, Persisted scanner reader s.toStatusFields.content w ->
      Settled scanner reader w := fun w persisted => ⟨_, persisted⟩
  refine .bind (await_spec settled) fun outcome => .given fun probed => ?_
  refine .bind (await_spec settled) fun reading => .given fun _ => ?_
  refine .bind (pythonCall_spec settled) fun now => .given fun _ => ?_
  refine .bind (pythonCall_spec settled) fun s' => .given fun advanced => ?_
  refine .bind (save_spec environment.firstSave settled ?_) fun _ => ?_
  · exact fun w data persisted serialised => firstSave_replaces advanced persisted serialised
  split
  · rename_i empty
    refine .pure fun w persisted => ⟨s, s', s', outcome, now, ?_, persisted⟩
    refine ⟨rfl, probed, advanced, .idle empty, ?_⟩
    intro head rest shape
    cases empty.symm.trans shape
  · rename_i oldest rest shape
    refine .bind (send_spec shape environment.send) fun _ => ?_
    refine .bind (pythonCall_spec fun w handed => ⟨_, handed.1⟩) fun s'' =>
      .given fun acknowledged => ?_
    refine .bind (secondSave_spec shape acknowledged environment.secondSave) fun _ => ?_
    refine .pure fun w kept => ⟨s, s', s'', outcome, now, ?_, kept.1⟩
    refine ⟨rfl, probed, advanced, ?_, ?_⟩
    · rcases acknowledge_cases acknowledged with ⟨head, others, found, _, fields⟩
      exact .delivered head others found fields
    · intro head others found
      cases shape.symm.trans found
      exact kept.2

/-- The world holds a snapshot with so many cycles left. -/
def CyclesLeft (scanner : JsonScanner) (reader : IsoReader) (outcome : DeadManProbeOutcome)
    (n : Nat) (w : World) : Prop :=
  exists s : DeadManStatus, s.toStatusFields.content.cyclesLeft outcome = n ∧
    Persisted scanner reader s.toStatusFields.content w

theorem cycle_countdown {environment : CycleEnvironment} {outcome : DeadManProbeOutcome}
    (probed : environment.probe = .returns outcome) (n : Nat) :
    Program.Spec (CyclesLeft scanner reader outcome n) (runDeadmanCycle scanner reader environment)
      (fun _ => CyclesLeft scanner reader outcome (n - 1)) (Stopped scanner reader) := by
  intro w before
  rcases before with ⟨s, left, persisted⟩
  refine (cycle_serves environment _).mono (fun _ holds => holds) ?_ (fun _ _ holds => holds) w
    persisted
  intro _ _ served
  rcases served with ⟨t, t', t'', found, now, made, persisted⟩
  have same := made.probed
  rw [probed] at same
  cases same
  refine ⟨t'', ?_, persisted⟩
  rw [made.served.cyclesLeft made.advanced, made.content, left]

/-- The intent was delivered, or it is pending with fewer than so many before it. -/
def Awaited (scanner : JsonScanner) (reader : IsoReader) (intent : IntentContent)
    (n : Nat) (w : World) : Prop :=
  exists c, Persisted scanner reader c w ∧ (ContentDelivered w.log intent ∨
    exists ahead behind, c.pending = ahead ++ intent :: behind ∧ ahead.length < n)

theorem awaited_countdown (environment : CycleEnvironment) (intent : IntentContent) (n : Nat) :
    Program.Spec (Awaited scanner reader intent n) (runDeadmanCycle scanner reader environment)
      (fun _ => Awaited scanner reader intent (n - 1)) (Stopped scanner reader) := by
  intro w before
  rcases before with ⟨c, persisted, awaited⟩
  have extended : Extends w.log (runDeadmanCycle scanner reader environment) :=
    cycle_extends environment
  refine ((cycle_serves environment c).both extended).mono (fun _ holds => holds) ?_
    (fun _ _ stopped => stopped.1) w ⟨persisted, List.prefix_rfl⟩
  intro _ w' ended
  rcases ended with ⟨⟨s, s', s'', outcome, now, made, kept⟩, grown⟩
  refine ⟨_, kept, ?_⟩
  rcases awaited with delivered | pending
  · rcases delivered with ⟨m, file, member, same⟩
    exact .inl ⟨m, file, grown.subset member, same⟩
  rcases pending with ⟨ahead, behind, queue, places⟩
  rcases made.served.queue made.advanced with ⟨more, added, _, left⟩
  rw [<- made.content] at queue
  have shape : s'.toStatusFields.content.pending =
      ahead ++ intent :: (behind ++ more.map DeadManNotification.content) := by
    simp only [StatusFields.content] at queue ⊢
    rw [added, List.map_append, queue, List.append_assoc, List.cons_append]
  have remaining : s''.toStatusFields.content.pending =
      (ahead ++ intent :: (behind ++ more.map DeadManNotification.content)).tail := by
    rw [<- shape]
    simp only [StatusFields.content]
    rw [left, added, List.map_tail]
  cases ahead with
  | nil =>
      rcases List.map_eq_cons_iff.mp shape with ⟨head, rest, found, content, _⟩
      rw [<- content]
      exact .inl (made.delivered head rest found)
  | cons oldest others =>
      rw [List.length_cons] at places
      exact .inr ⟨others, _, remaining, by omega⟩

/-- The world holds a queue of at most this length. -/
def BacklogAtMost (scanner : JsonScanner) (reader : IsoReader) (n : Nat) (w : World) : Prop :=
  exists c, Persisted scanner reader c w ∧ c.pending.length ≤ n

theorem backlog_kept (environment : CycleEnvironment) (n : Nat) :
    Program.Spec (BacklogAtMost scanner reader n) (runDeadmanCycle scanner reader environment)
      (fun _ => BacklogAtMost scanner reader n) (Stopped scanner reader) := by
  intro w before
  rcases before with ⟨c, persisted, short⟩
  refine (cycle_serves environment c).mono (fun _ holds => holds) ?_ (fun _ _ stopped => stopped) w
    persisted
  intro _ w' ended
  rcases ended with ⟨s, s', s'', outcome, now, made, kept⟩
  rcases made.served.queue made.advanced with ⟨more, _, single, left⟩
  refine ⟨_, kept, ?_⟩
  rw [<- made.content] at short
  simp only [StatusFields.content, List.length_map, left, List.length_tail, List.length_append]
    at short ⊢
  omega

end Worlds

/-! ## Whole runs -/

/-- Everything the queue ever held was delivered, and so was the alert of the
outage the snapshot is bound to. -/
structure NothingLeft (s : DeadManStatus) (log : List Event) : Prop where
  empty : s.pendingNotifications = []
  delivered : forall id, 1 ≤ id -> id < s.nextNotificationId -> Delivered log id
  outage : forall current, s.currentDown = some current ->
    current.acknowledged = true ∧ DownDelivered log current.notificationId

section Runs

variable {scanner : JsonScanner} {reader : IsoReader}

theorem Persisted.nothingLeft {s t : DeadManStatus} {w : World}
    (persisted : Persisted scanner reader s.toStatusFields.content w)
    (loaded : loadFile scanner reader w.file = .ok t) (empty : t.pendingNotifications = []) :
    NothingLeft t w.log := by
  rcases persisted.loads with ⟨found, again, content⟩
  cases loaded.symm.trans again
  have consistent := persisted.consistent
  rw [<- content] at consistent
  have base : t.toStatusFields.content.base = t.nextNotificationId := by
    simp [StatusContent.base, StatusFields.content, empty]
  refine ⟨empty, fun id positive below => consistent.delivered id positive (by omega), ?_⟩
  intro current bound
  rcases binding_of_currentDown t.admissible bound with ⟨_, _, queue⟩
  have acknowledged : current.acknowledged = true := by
    by_contra unacknowledged
    rw [if_neg unacknowledged, BoundTail, empty] at queue
    rcases queue with ⟨older, tail, shape, _⟩
    simp at shape
  exact ⟨acknowledged, consistent.acknowledged current bound acknowledged⟩

end Runs

/-- The cycles that follow a history, as long as each of them returns. -/
def returningCycles (scanner : JsonScanner) (reader : IsoReader)
    (environments : List CycleEnvironment) : CycleProgram (List DeadManCycleResult) :=
  Program.inOrder (environments.map (runDeadmanCycle scanner reader))

/-- A rule for each program of the run is a rule for each cycle. -/
theorem forall_cycles {scanner : JsonScanner} {reader : IsoReader}
    {environments : List CycleEnvironment}
    {rule : CycleProgram DeadManCycleResult -> Prop}
    (step : forall environment, environment ∈ environments ->
      rule (runDeadmanCycle scanner reader environment)) :
    forall program, program ∈ environments.map (runDeadmanCycle scanner reader) -> rule program := by
  intro program member
  rcases List.mem_map.mp member with ⟨environment, listed, rfl⟩
  exact step environment listed

/-- After any history of cycles, wherever each of them was interrupted: in the
cycles that follow and return, whatever their probes say, the queue grows no
longer, and an intent is delivered once more cycles have returned than stand
intents before it. -/
theorem queue_is_served (scanner : JsonScanner) (reader : IsoReader)
    (history environments : List CycleEnvironment)
    {before : DeadManStatus} {results : List DeadManCycleResult} {w : World}
    (loaded : loadFile scanner reader (runCycles scanner reader history).file = .ok before)
    (returned : returningCycles scanner reader environments (runCycles scanner reader history) =
      (.ok results, w)) :
    exists after, loadFile scanner reader w.file = .ok after ∧
      after.pendingNotifications.length ≤ before.pendingNotifications.length ∧
      forall ahead intent behind, before.pendingNotifications = ahead ++ intent :: behind ->
        ahead.length < environments.length -> ContentDelivered w.log intent.content := by
  rcases @runCycles_settled scanner reader history with ⟨c, persisted⟩
  rcases persisted.loads with ⟨found, again, content⟩
  cases loaded.symm.trans again
  rw [<- content] at persisted
  have ended : forall {post : World -> Prop},
      Program.Spec (Persisted scanner reader before.toStatusFields.content)
        (returningCycles scanner reader environments) (fun _ => post) (Stopped scanner reader) ->
      post w := by
    intro post spec
    have final := spec _ persisted
    rw [returned] at final
    exact final
  have short : BacklogAtMost scanner reader before.pendingNotifications.length w := by
    apply ended
    refine (Program.Spec.inOrder_keeps (forall_cycles fun environment _ =>
      backlog_kept environment before.pendingNotifications.length)).mono ?_
      (fun _ _ holds => holds) (fun _ _ stopped => stopped)
    exact fun w holds => ⟨_, holds, by simp [StatusFields.content]⟩
  rcases short with ⟨c, kept, length⟩
  rcases kept.loads with ⟨after, reloaded, same⟩
  refine ⟨after, reloaded, ?_, ?_⟩
  · rw [<- same] at length
    simpa [StatusFields.content] using length
  intro ahead intent behind queue enough
  have awaited : Awaited scanner reader intent.content
      (ahead.length + 1 - (environments.map (runDeadmanCycle scanner reader)).length) w := by
    apply ended
    refine (Program.Spec.inOrder_countdown (forall_cycles fun environment _ =>
      awaited_countdown environment intent.content) _).mono ?_
      (fun _ _ holds => holds) (fun _ _ stopped => stopped)
    refine fun w holds => ⟨_, holds, .inr ?_⟩
    refine ⟨ahead.map DeadManNotification.content, behind.map DeadManNotification.content, ?_, ?_⟩
    · simp only [StatusFields.content]
      rw [queue, List.map_append, List.map_cons]
    · rw [List.length_map]
      omega
  rcases awaited with ⟨_, _, delivered | pending⟩
  · exact delivered
  · rcases pending with ⟨others, _, _, impossible⟩
    rw [List.length_map] at impossible
    omega

/-- A cycle in the given minute of the first day in which only the probe and the
sender differ. -/
def minuteCycle (minute : Fin 1440) (outcome : DeadManProbeOutcome) (send : Reply Unit) :
    CycleEnvironment where
  load := .completes
  probe := .returns outcome
  clock := .returns (.datetime (DateTime.utc ⟨minute.val * 60000000, Nat.lt_of_lt_of_le
    (Nat.mul_lt_mul_of_pos_right minute.isLt (by decide)) (by decide)⟩))
  firstSave := .completes
  send
  secondSave := .completes

set_option maxRecDepth 100000 in
/-- An outage whose alert could not be sent is reported by the next cycle that returns. -/
theorem queue_is_served_unsent :
    let history := [minuteCycle 0 .failed .crashes, minuteCycle 1 .failed .crashes,
      minuteCycle 2 .failed .crashes]
    exists before intent results w,
      loadFile JsonScanner.standard extendedFormat
        (runCycles JsonScanner.standard extendedFormat history).file = .ok before ∧
      before.pendingNotifications = [intent] ∧
      returningCycles JsonScanner.standard extendedFormat
        [minuteCycle 3 .failed (.returns ())]
        (runCycles JsonScanner.standard extendedFormat history) = (.ok results, w) ∧
      ContentDelivered w.log intent.content := by
  intro history
  have returns : (returningCycles JsonScanner.standard extendedFormat
      [minuteCycle 3 .failed (.returns ())]
      (runCycles JsonScanner.standard extendedFormat history)).1.isOk = true := by decide +kernel
  have one : (pendingIds JsonScanner.standard extendedFormat
      (runCycles JsonScanner.standard extendedFormat history).file).length = 1 := by decide +kernel
  rcases Program.returned_of_isOk returns with ⟨results, w, returned⟩
  cases loaded : loadFile JsonScanner.standard extendedFormat
    (runCycles JsonScanner.standard extendedFormat history).file with
  | error e =>
      rw [pendingIds, loaded] at one
      cases one
  | ok before =>
      rw [pendingIds, loaded] at one
      have ids : (before.pendingNotifications.map (·.notificationId)).length = 1 := one
      rw [List.length_map] at ids
      rcases List.length_eq_one_iff.mp ids with ⟨intent, queue⟩
      rcases queue_is_served JsonScanner.standard extendedFormat history
        [minuteCycle 3 .failed (.returns ())] loaded returned with ⟨after, _, _, served⟩
      exact ⟨before, intent, results, w, rfl, queue, returned, served [] intent [] queue (by decide)⟩

/-- After any history of cycles, wherever each of them was interrupted: when
cycles with one and the same outcome follow and all return, the state of that
outcome is reached with an empty queue after exactly `cyclesLeft` of them, and
then every notification ever allocated was delivered. -/
theorem backlog_drains (scanner : JsonScanner) (reader : IsoReader)
    (history environments : List CycleEnvironment) (outcome : DeadManProbeOutcome)
    (probed : forall environment, environment ∈ environments ->
      environment.probe = .returns outcome)
    {before : DeadManStatus} {results : List DeadManCycleResult} {w : World}
    (loaded : loadFile scanner reader (runCycles scanner reader history).file = .ok before)
    (returned : returningCycles scanner reader environments (runCycles scanner reader history) =
      (.ok results, w)) :
    exists after, loadFile scanner reader w.file = .ok after ∧
      (before.toStatusFields.content.cyclesLeft outcome ≤ environments.length ↔
        after.state = settledState outcome ∧ after.pendingNotifications = []) ∧
      (after.pendingNotifications = [] -> NothingLeft after w.log) := by
  rcases @runCycles_settled scanner reader history with ⟨c, persisted⟩
  rcases persisted.loads with ⟨found, again, content⟩
  cases loaded.symm.trans again
  rw [<- content] at persisted
  have final := Program.Spec.inOrder_countdown (forall_cycles fun environment listed =>
    cycle_countdown (probed environment listed))
    (before.toStatusFields.content.cyclesLeft outcome) _ ⟨before, rfl, persisted⟩
  rw [returningCycles] at returned
  rw [returned, List.length_map] at final
  rcases final with ⟨s, left, kept⟩
  rcases kept.loads with ⟨after, reloaded, same⟩
  refine ⟨after, reloaded, ?_, kept.nothingLeft reloaded⟩
  rw [<- cyclesLeft_eq_zero, same, left]
  omega

set_option maxRecDepth 100000 in
theorem backlog_drains_firstOutage :
    exists results w after, returningCycles JsonScanner.standard extendedFormat
        [minuteCycle 0 .failed .crashes, minuteCycle 1 .failed .crashes,
          minuteCycle 2 .failed (.returns ())] World.initial = (.ok results, w) ∧
      loadFile JsonScanner.standard extendedFormat w.file = .ok after ∧
      after.state = .down ∧ NothingLeft after w.log := by
  have returns : (returningCycles JsonScanner.standard extendedFormat
      [minuteCycle 0 .failed .crashes, minuteCycle 1 .failed .crashes,
        minuteCycle 2 .failed (.returns ())] World.initial).1.isOk = true := by decide +kernel
  rcases Program.returned_of_isOk returns with ⟨results, w, returned⟩
  rcases backlog_drains JsonScanner.standard extendedFormat [] _ .failed (by simp [minuteCycle])
    loadFile_none returned with ⟨after, loaded, exactly, nothing⟩
  rcases exactly.mp (by decide) with ⟨down, empty⟩
  exact ⟨results, w, after, returned, loaded, down, nothing empty⟩

end DeadMan
end HermesSentinel
