import HermesSentinel.DeadMan.Cycle
import Mathlib.Data.List.Chain

namespace HermesSentinel
namespace DeadMan

open Python
open Foundation

/-!
# At-least-once, in-order delivery

The invariant compares the content of the persisted snapshot with the log.
Everything below the oldest outstanding id was delivered, the sender was last
given that id or the one before it, and what it was given under that id is the
head of the queue.  It holds of the world between any two accesses, so it does
not matter where a cycle stops.
-/

/-- A send of this id returned normally. -/
def Delivered (log : List Event) (id : Int) : Prop :=
  exists n file, Event.sent n true file ∈ log ∧ n.notificationId = id

/-- A send of a DOWN under this id returned normally. -/
def DownDelivered (log : List Event) (id : Int) : Prop :=
  exists n file, Event.sent n true file ∈ log ∧ n.notificationId = id ∧ n.kind = .down

/-- The ids handed to the sender, in order. -/
def sentIds (log : List Event) : List Int :=
  log.filterMap fun
    | .sent n _ _ => some n.notificationId
    | .replaced _ _ => none

section Logs

variable (scanner : JsonScanner) (reader : IsoReader)

/-- When an event is in order, given what happened before it. -/
def Allowed (before : List Event) : Event -> Prop
  | .replaced old new =>
      forall id, id ∈ pendingIds scanner reader old -> id ∉ pendingIds scanner reader new ->
        Delivered before id
  | .sent n _ file =>
      (exists s head rest, loadFile scanner reader file = .ok s ∧
        s.pendingNotifications = head :: rest ∧ head.content = n.content) ∧
      (forall m delivered other, Event.sent m delivered other ∈ before ->
        m.notificationId = n.notificationId -> m.content = n.content) ∧
      (match (sentIds before).getLast? with
        | none => n.notificationId = 1
        | some last => n.notificationId = last ∨ n.notificationId = last + 1) ∧
      (n.kind = .recovered -> DownDelivered before (n.notificationId - 1))

end Logs

theorem Delivered.append {log : List Event} {id : Int} (delivered : Delivered log id)
    (more : List Event) : Delivered (log ++ more) id := by
  rcases delivered with ⟨n, file, member, same⟩
  exact ⟨n, file, List.mem_append_left more member, same⟩

theorem DownDelivered.append {log : List Event} {id : Int} (delivered : DownDelivered log id)
    (more : List Event) : DownDelivered (log ++ more) id := by
  rcases delivered with ⟨n, file, member, same, kind⟩
  exact ⟨n, file, List.mem_append_left more member, same, kind⟩

@[simp] theorem sentIds_replaced (log : List Event) (old new : StateFile) :
    sentIds (log ++ [.replaced old new]) = sentIds log := by
  rw [sentIds, List.filterMap_append]
  exact List.append_nil _

@[simp] theorem sentIds_sent (log : List Event) (n : DeadManNotification) (delivered : Bool)
    (file : StateFile) :
    sentIds (log ++ [.sent n delivered file]) = sentIds log ++ [n.notificationId] := by
  rw [sentIds, List.filterMap_append]
  rfl

/-- The id of the oldest intent not acknowledged yet. -/
def StatusContent.base (c : StatusContent) : Int :=
  c.nextNotificationId - c.pending.length

/-- The persisted content agrees with what was sent. -/
structure Consistent (c : StatusContent) (log : List Event) : Prop where
  delivered : forall id, 1 ≤ id -> id < c.base -> Delivered log id
  last : match (sentIds log).getLast? with
    | none => c.base = 1
    | some last => c.base - 1 ≤ last ∧ last ≤ c.base
  ahead : forall n delivered file, Event.sent n delivered file ∈ log -> c.base ≤ n.notificationId ->
    c.pending.head? = some n.content
  acknowledged : forall current, c.currentDown = some current -> current.acknowledged = true ->
    DownDelivered log current.notificationId
  recovered : forall intent, intent ∈ c.pending -> intent.kind = .recovered ->
    DownDelivered log (intent.notificationId - 1)

/-- What an admissible snapshot says about its queue. -/
theorem pending_ids (s : DeadManStatus) :
    s.toStatusFields.content.pending.map IntentContent.notificationId =
      consecutive s.toStatusFields.content.base s.toStatusFields.content.pending.length := by
  have ids := s.admissible.ids
  simp only [StatusFields.content, StatusContent.base, List.map_map, List.length_map]
  exact ids

theorem head_id_of_base {s : DeadManStatus} {head : IntentContent} {rest : List IntentContent}
    (shape : s.toStatusFields.content.pending = head :: rest) :
    head.notificationId = s.toStatusFields.content.base := by
  have ids := pending_ids s
  rw [shape, List.map_cons, List.length_cons, consecutive, List.cons.injEq] at ids
  exact ids.1

theorem consistent_initial : Consistent DeadManStatus.initial.toStatusFields.content [] where
  delivered := by
    intro id positive below
    have base : DeadManStatus.initial.toStatusFields.content.base = 1 := rfl
    omega
  last := rfl
  ahead := by
    intro _ _ _ impossible
    cases impossible
  acknowledged := by
    intro _ impossible
    cases impossible
  recovered := by
    intro _ impossible
    cases impossible

/-- Nothing but a send concerns the sender. -/
theorem Consistent.replaced {c : StatusContent} {log : List Event} (consistent : Consistent c log)
    (old new : StateFile) : Consistent c (log ++ [.replaced old new]) where
  delivered := fun id positive below => (consistent.delivered id positive below).append _
  last := by
    rw [sentIds_replaced]
    exact consistent.last
  ahead := by
    intro n delivered file member
    rcases List.mem_append.mp member with earlier | impossible
    · exact consistent.ahead n delivered file earlier
    · cases List.mem_singleton.mp impossible
  acknowledged := fun current bound marked => (consistent.acknowledged current bound marked).append _
  recovered := fun intent member kind => (consistent.recovered intent member kind).append _

/-- An evaluation allocates at the tail; the head and the sender see nothing of it. -/
theorem Consistent.movement {s s' : DeadManStatus} {log : List Event}
    (consistent : Consistent s.toStatusFields.content log)
    (movement : Movement s.toStatusFields.content s'.toStatusFields.content) :
    Consistent s'.toStatusFields.content log := by
  have allocated : forall intent : IntentContent,
      s'.toStatusFields.content.pending = s.toStatusFields.content.pending ++ [intent] ->
      s'.toStatusFields.content.nextNotificationId =
        s.toStatusFields.content.nextNotificationId + 1 ->
      (forall current, s'.toStatusFields.content.currentDown = some current ->
        current.acknowledged = true -> DownDelivered log current.notificationId) ->
      (intent.kind = .recovered -> DownDelivered log (intent.notificationId - 1)) ->
      Consistent s'.toStatusFields.content log := by
    intro intent pending next acknowledged recovered
    have base : s'.toStatusFields.content.base = s.toStatusFields.content.base := by
      rw [StatusContent.base, StatusContent.base, pending, next, List.length_append,
        List.length_singleton]
      omega
    constructor
    · rw [base]
      exact consistent.delivered
    · rw [base]
      exact consistent.last
    · rw [base]
      intro n delivered file member reached
      have head := consistent.ahead n delivered file member reached
      rw [pending, List.head?_append, head]
      rfl
    · exact acknowledged
    · intro other member kind
      rw [pending] at member
      rcases List.mem_append.mp member with older | new
      · exact consistent.recovered other older kind
      · rw [List.mem_singleton.mp new] at kind ⊢
        exact recovered kind
  have kept : s'.toStatusFields.content.pending = s.toStatusFields.content.pending ->
      s'.toStatusFields.content.nextNotificationId = s.toStatusFields.content.nextNotificationId ->
      (forall current, s'.toStatusFields.content.currentDown = some current ->
        current.acknowledged = true -> DownDelivered log current.notificationId) ->
      Consistent s'.toStatusFields.content log := by
    intro pending next acknowledged
    have base : s'.toStatusFields.content.base = s.toStatusFields.content.base := by
      rw [StatusContent.base, StatusContent.base, pending, next]
    constructor
    · rw [base]
      exact consistent.delivered
    · rw [base]
      exact consistent.last
    · rw [base, pending]
      exact consistent.ahead
    · exact acknowledged
    · rw [pending]
      exact consistent.recovered
  cases movement with
  | quiet pending next current down =>
      apply kept pending next
      rw [current]
      exact consistent.acknowledged
  | opened intent notDown down pending id kind next dated current bound currentId unacknowledged =>
      apply allocated intent pending next
      · intro found same marked
        cases bound.symm.trans same
        rw [unacknowledged] at marked
        cases marked
      · rw [kind]
        intro impossible
        cases impossible
  | closedSilently down up current bound unacknowledged pending next unbound =>
      apply kept pending next
      intro found same
      cases unbound.symm.trans same
  | closedAnnounced down up current bound acknowledged intent pending id kind next dated unbound =>
      apply allocated intent pending next
      · intro found same
        cases unbound.symm.trans same
      · intro _
        have currentId := (binding_of_currentDown s.admissible bound).2.1
        have previous : intent.notificationId - 1 = current.notificationId := by
          rw [id, currentId]
          rfl
        rw [previous]
        exact consistent.acknowledged current bound acknowledged

/-- The head of the queue is handed to the sender. -/
theorem Consistent.sent {s : DeadManStatus} {log : List Event}
    (consistent : Consistent s.toStatusFields.content log) {n : DeadManNotification}
    {rest : List DeadManNotification} (shape : s.pendingNotifications = n :: rest)
    (delivered : Bool) (file : StateFile) :
    Consistent s.toStatusFields.content (log ++ [.sent n delivered file]) := by
  have content : s.toStatusFields.content.pending =
      n.content :: rest.map DeadManNotification.content := by
    rw [StatusFields.content, shape]
    rfl
  constructor
  · exact fun id positive below => (consistent.delivered id positive below).append _
  · have headId : n.notificationId = s.toStatusFields.content.base := head_id_of_base content
    rw [sentIds_sent, List.getLast?_concat]
    exact ⟨by omega, by omega⟩
  · intro m other otherFile member reached
    rcases List.mem_append.mp member with earlier | new
    · exact consistent.ahead m other otherFile earlier reached
    · cases List.mem_singleton.mp new
      rw [content]
      rfl
  · exact fun current bound marked => (consistent.acknowledged current bound marked).append _
  · exact fun intent member kind => (consistent.recovered intent member kind).append _

/-- An unacknowledged outage that is bound to the head of the queue is a DOWN. -/
theorem kind_of_bound_head {s : DeadManStatus} {head : DeadManNotification}
    {rest : List DeadManNotification} (shape : s.pendingNotifications = head :: rest)
    {current : DeadManCurrentDown} (bound : s.currentDown = some current)
    (same : current.notificationId = head.notificationId) : head.kind = .down := by
  rcases binding_of_currentDown s.admissible bound with ⟨_, currentId, queue⟩
  have headId := (ids_tail s.admissible shape).1
  have last : rest = [] := List.eq_nil_of_length_eq_zero (by omega)
  split at queue
  · rw [shape] at queue
    cases queue
  · rcases queue with ⟨older, tail, queue, kind, _⟩
    rw [shape, last] at queue
    have parts := List.append_inj' (show [] ++ [head] = older ++ [tail] from queue) rfl
    cases parts.2
    exact kind

/-- The head is acknowledged after it was delivered. -/
theorem Consistent.acknowledge {s s' : DeadManStatus} {log : List Event}
    (consistent : Consistent s.toStatusFields.content log) {n : DeadManNotification}
    {rest : List DeadManNotification} (shape : s.pendingNotifications = n :: rest)
    (fields : s'.toStatusFields = acknowledgedFields s.toStatusFields n rest)
    {file : StateFile} (delivered : Event.sent n true file ∈ log)
    (newest : (sentIds log).getLast? = some n.notificationId) :
    Consistent s'.toStatusFields.content log := by
  have content : s.toStatusFields.content.pending =
      n.content :: rest.map DeadManNotification.content := by
    rw [StatusFields.content, shape]
    rfl
  have headId : n.notificationId = s.toStatusFields.content.base := head_id_of_base content
  have base : s'.toStatusFields.content.base = s.toStatusFields.content.base + 1 := by
    rw [StatusContent.base, StatusContent.base, content, fields]
    simp only [StatusFields.content, acknowledgedFields, List.length_cons, List.length_map]
    omega
  constructor
  · intro id positive below
    by_cases older : id < s.toStatusFields.content.base
    · exact consistent.delivered id positive older
    · exact ⟨n, file, delivered, by omega⟩
  · rw [newest]
    exact ⟨by omega, by omega⟩
  · intro m other otherFile member reached
    have head := consistent.ahead m other otherFile member (by omega)
    rw [content] at head
    have sameId : n.notificationId = m.notificationId :=
      congrArg IntentContent.notificationId (Option.some.inj head)
    omega
  · intro current bound marked
    rw [fields] at bound
    rcases Option.map_eq_some_iff.mp bound with ⟨original, found, rfl⟩
    by_cases same : original.notificationId = n.notificationId
    · rw [if_pos same]
      exact ⟨n, file, delivered, same.symm, kind_of_bound_head shape found same⟩
    · rw [if_neg same] at marked ⊢
      exact consistent.acknowledged original found marked
  · intro intent member kind
    rw [fields] at member
    exact consistent.recovered intent (by rw [content]; exact List.mem_cons_of_mem _ member) kind

/-! ## The world between two accesses -/

section Worlds

variable (scanner : JsonScanner) (reader : IsoReader)

/-- The file holds this content, it agrees with the log, and the log is in order. -/
structure Persisted (c : StatusContent) (w : World) : Prop where
  loads : exists t, loadFile scanner reader w.file = .ok t ∧ t.toStatusFields.content = c
  consistent : Consistent c w.log
  justified : Justified (Allowed scanner reader) w.log

/-- The invariant of the world wherever a cycle may stop. -/
def Settled (w : World) : Prop :=
  exists c, Persisted scanner reader c w

variable {scanner reader}

theorem settled_initial : Settled scanner reader World.initial :=
  ⟨_, ⟨_, rfl, rfl⟩, consistent_initial, justified_nil _⟩

/-- A replacement is in order when only delivered ids leave the queue. -/
theorem Persisted.replaced {c : StatusContent} {w : World} (persisted : Persisted scanner reader c w)
    {s' : DeadManStatus} {data : List Utf8.Byte} (serialised : serialise s' = .ok data)
    (kept : forall id, id ∈ c.pending.map IntentContent.notificationId ->
      id ∉ s'.toStatusFields.content.pending.map IntentContent.notificationId ->
        Delivered w.log id)
    (consistent : Consistent s'.toStatusFields.content w.log) :
    Persisted scanner reader s'.toStatusFields.content
      { file := some data, log := w.log ++ [.replaced w.file (some data)] } := by
  have stored := @loadFile_serialise scanner reader _ _ serialised
  refine ⟨⟨s'.inUtc, stored, s'.content_inUtc⟩, consistent.replaced _ _, ?_⟩
  apply persisted.justified.concat
  rcases persisted.loads with ⟨t, loaded, content⟩
  intro id pending gone
  rw [pendingIds_of_load loaded, content] at pending
  rw [pendingIds_of_load stored, s'.content_inUtc] at gone
  exact kept id pending gone

/-- Handing the persisted head to the sender is in order. -/
theorem Persisted.sent {s : DeadManStatus} {w : World}
    (persisted : Persisted scanner reader s.toStatusFields.content w) {n : DeadManNotification}
    {rest : List DeadManNotification} (shape : s.pendingNotifications = n :: rest)
    (delivered : Bool) :
    Persisted scanner reader s.toStatusFields.content
      { w with log := w.log ++ [.sent n delivered w.file] } := by
  have consistent := persisted.consistent
  have content : s.toStatusFields.content.pending =
      n.content :: rest.map DeadManNotification.content := by
    rw [StatusFields.content, shape]
    rfl
  have headId : n.notificationId = s.toStatusFields.content.base := head_id_of_base content
  refine ⟨persisted.loads, consistent.sent shape delivered w.file, ?_⟩
  apply persisted.justified.concat
  refine ⟨?_, ?_, ?_, ?_⟩
  · rcases persisted.loads with ⟨t, loaded, same⟩
    have queue : t.pendingNotifications.map DeadManNotification.content =
        n.content :: rest.map DeadManNotification.content :=
      (congrArg StatusContent.pending same).trans content
    rcases List.map_eq_cons_iff.mp queue with ⟨head, others, found, headContent, _⟩
    exact ⟨t, head, others, loaded, found, headContent⟩
  · intro m other file member sameId
    have head := consistent.ahead m other file member (by omega)
    rw [content] at head
    exact (Option.some.inj head).symm
  · have last := consistent.last
    split at last
    · omega
    · omega
  · intro recovered
    exact consistent.recovered n.content (by rw [content]; exact List.mem_cons_self) recovered

/-! ## The cycle keeps the invariant -/

/-- A cycle may stop in any settled world. -/
abbrev Stopped (scanner : JsonScanner) (reader : IsoReader) (_ : Interruption) (w : World) : Prop :=
  Settled scanner reader w

theorem pythonCall_spec {α : Type} {pre : World -> Prop} {call : Fallible α}
    (settled : forall w, pre w -> Settled scanner reader w) :
    Program.Spec pre (pythonCall call) (fun value w => call = .ok value ∧ pre w)
      (Stopped scanner reader) := by
  cases call with
  | ok value => exact .pure fun w holds => ⟨rfl, holds⟩
  | error e => exact .interrupt settled

theorem await_spec {α : Type} {pre : World -> Prop} {reply : Reply α}
    (settled : forall w, pre w -> Settled scanner reader w) :
    Program.Spec pre (await reply) (fun value w => reply = .returns value ∧ pre w)
      (Stopped scanner reader) := by
  cases reply with
  | returns value => exact .pure fun w holds => ⟨rfl, holds⟩
  | raises e => exact .interrupt settled
  | crashes => exact .interrupt settled

theorem load_spec (access : ReadAccess) :
    Program.Spec (Settled scanner reader) (load scanner reader access)
      (fun s => Persisted scanner reader s.toStatusFields.content) (Stopped scanner reader) := by
  cases access with
  | completes =>
      intro w settled
      rcases settled with ⟨c, persisted⟩
      rcases persisted.loads with ⟨t, loaded, content⟩
      have result : load scanner reader .completes w = (.ok t, w) := by
        show pythonCall (loadFile scanner reader w.file) w = _
        rw [loaded]
        rfl
      rw [<- content] at persisted
      rw [result]
      exact persisted
  | fails => exact .interrupt fun _ settled => settled
  | crashes => exact .interrupt fun _ settled => settled

/-- Saving either leaves the world or persists the new status. -/
theorem save_spec {pre : World -> Prop} {s' : DeadManStatus} (access : WriteAccess)
    (settled : forall w, pre w -> Settled scanner reader w)
    (replaced : forall w data, pre w -> serialise s' = .ok data ->
      Persisted scanner reader s'.toStatusFields.content
        { file := some data, log := w.log ++ [.replaced w.file (some data)] }) :
    Program.Spec pre (save access s')
      (fun _ => Persisted scanner reader s'.toStatusFields.content) (Stopped scanner reader) := by
  refine .bind (pythonCall_spec settled) fun data => ?_
  have unchanged : forall w, serialise s' = .ok data ∧ pre w -> Settled scanner reader w :=
    fun w holds => settled w holds.2
  have written : Program.Spec (fun w => serialise s' = .ok data ∧ pre w) (replaceFile data)
      (fun _ => Persisted scanner reader s'.toStatusFields.content) (Stopped scanner reader) :=
    .update fun w holds => replaced w data holds.2 holds.1
  cases access with
  | createFails => exact .interrupt unchanged
  | writeFails => exact .interrupt unchanged
  | replaceFails => exact .interrupt unchanged
  | crashes => exact .interrupt unchanged
  | crashesReplaced => exact .bind written fun _ => .interrupt fun w persisted => ⟨_, persisted⟩
  | completes => exact written

/-- What holds once the head was handed over and the call returned. -/
def HandedOver (scanner : JsonScanner) (reader : IsoReader) (s : DeadManStatus)
    (n : DeadManNotification) (w : World) : Prop :=
  Persisted scanner reader s.toStatusFields.content w ∧
    (exists file, Event.sent n true file ∈ w.log) ∧
    (sentIds w.log).getLast? = some n.notificationId

theorem send_spec {s : DeadManStatus} {n : DeadManNotification} {rest : List DeadManNotification}
    (shape : s.pendingNotifications = n :: rest) (reply : Reply Unit) :
    Program.Spec (Persisted scanner reader s.toStatusFields.content) (send reply n)
      (fun _ => HandedOver scanner reader s n) (Stopped scanner reader) := by
  intro w persisted
  have logged := persisted.sent shape reply.delivered
  cases reply with
  | returns value =>
      refine ⟨logged, ⟨w.file, ?_⟩, ?_⟩
      · exact List.mem_append_right w.log List.mem_cons_self
      · show (sentIds (w.log ++ [.sent n true w.file])).getLast? = _
        rw [sentIds_sent, List.getLast?_concat]
  | raises e => exact ⟨_, logged⟩
  | crashes => exact ⟨_, logged⟩

/-- The first save of a cycle: an evaluation only adds to the queue. -/
theorem firstSave_replaces {s s' : DeadManStatus} {outcome : DeadManProbeOutcome} {now : DateTime}
    (advanced : advanceDeadmanStatus s outcome now = .ok s') {w : World} {data : List Utf8.Byte}
    (persisted : Persisted scanner reader s.toStatusFields.content w)
    (serialised : serialise s' = .ok data) :
    Persisted scanner reader s'.toStatusFields.content
      { file := some data, log := w.log ++ [.replaced w.file (some data)] } := by
  have movement := (movement_of_advance advanced).1
  refine persisted.replaced serialised ?_ (persisted.consistent.movement movement)
  have extended : exists more, s'.toStatusFields.content.pending =
      s.toStatusFields.content.pending ++ more := by
    cases movement with
    | quiet pending _ _ _ => exact ⟨[], by rw [pending, List.append_nil]⟩
    | opened intent _ _ pending => exact ⟨[intent], pending⟩
    | closedSilently _ _ _ _ _ pending => exact ⟨[], by rw [pending, List.append_nil]⟩
    | closedAnnounced _ _ _ _ _ intent pending => exact ⟨[intent], pending⟩
  rcases extended with ⟨more, pending⟩
  intro id member gone
  rw [pending, List.map_append] at gone
  exact absurd (List.mem_append_left _ member) gone

/-- The second save: only the id that was just delivered leaves the queue. -/
theorem secondSave_replaces {s s' : DeadManStatus} {n : DeadManNotification}
    {rest : List DeadManNotification} (shape : s.pendingNotifications = n :: rest)
    (acknowledged : acknowledgeDeadmanNotification s n.notificationId = .ok s') {w : World}
    {data : List Utf8.Byte} (handed : HandedOver scanner reader s n w)
    (serialised : serialise s' = .ok data) :
    Persisted scanner reader s'.toStatusFields.content
      { file := some data, log := w.log ++ [.replaced w.file (some data)] } := by
  rcases handed with ⟨persisted, ⟨file, delivered⟩, newest⟩
  rcases acknowledge_cases acknowledged with ⟨head, others, found, _, fields⟩
  rw [shape] at found
  cases found
  refine persisted.replaced serialised ?_
    (persisted.consistent.acknowledge shape fields delivered newest)
  intro id member gone
  rw [StatusFields.content, shape, List.map_cons, List.map_cons] at member
  rw [fields] at gone
  rcases List.mem_cons.mp member with same | later
  · exact ⟨n, file, delivered, same.symm⟩
  · exact absurd later gone

/-- Wherever a cycle stops, the world is settled. -/
theorem cycle_settled (environment : CycleEnvironment) {w : World}
    (settled : Settled scanner reader w) :
    Settled scanner reader (runDeadmanCycle scanner reader environment w).2 := by
  have spec : Program.Spec (Settled scanner reader) (runDeadmanCycle scanner reader environment)
      (fun _ => Settled scanner reader) (Stopped scanner reader) := by
    refine .bind (load_spec environment.load) fun s => ?_
    have persisted : forall w, Persisted scanner reader s.toStatusFields.content w ->
        Settled scanner reader w := fun w holds => ⟨_, holds⟩
    refine .bind (await_spec persisted) fun outcome => ?_
    refine .bind (await_spec fun w holds => persisted w holds.2) fun reading => ?_
    refine .bind (pythonCall_spec fun w holds => persisted w holds.2.2) fun now => ?_
    refine .bind (pythonCall_spec fun w holds => persisted w holds.2.2.2) fun s' => ?_
    refine .bind (save_spec environment.firstSave (fun w holds => persisted w holds.2.2.2.2) ?_)
      fun _ => ?_
    · exact fun w data holds serialised =>
        firstSave_replaces holds.1 holds.2.2.2.2 serialised
    split
    · exact .pure fun w holds => ⟨_, holds⟩
    · rename_i oldest rest shape
      refine .bind (send_spec shape environment.send) fun _ => ?_
      refine .bind (pythonCall_spec fun w holds => ⟨_, holds.1⟩) fun s'' => ?_
      refine .bind (save_spec environment.secondSave (fun w holds => ⟨_, holds.2.1⟩) ?_)
        fun _ => ?_
      · exact fun w data holds serialised =>
          secondSave_replaces shape holds.1 holds.2 serialised
      · exact .pure fun w holds => ⟨_, holds⟩
  have done := spec w settled
  rcases ended : runDeadmanCycle scanner reader environment w with ⟨e | value, w'⟩
  · rw [ended] at done
    exact done
  · rw [ended] at done
    exact done

theorem runCycles_settled (environments : List CycleEnvironment) :
    Settled scanner reader (runCycles scanner reader environments) := by
  have run : forall w, Settled scanner reader w -> Settled scanner reader
      (environments.foldl (fun w environment => (runDeadmanCycle scanner reader environment w).2) w) := by
    induction environments with
    | nil => exact fun _ settled => settled
    | cons environment rest inductionHypothesis =>
        exact fun w settled => inductionHypothesis _ (cycle_settled environment settled)
  exact run _ settled_initial

end Worlds

/-- Ids are handed out from 1 on, each the same as the last or the next. -/
theorem sentIds_ordered {scanner : JsonScanner} {reader : IsoReader} {log : List Event}
    (justified : Justified (Allowed scanner reader) log) :
    (forall first, (sentIds log).head? = some first -> first = 1) ∧
      (sentIds log).IsChain (fun previous next => next = previous ∨ next = previous + 1) := by
  induction log using List.reverseRecOn with
  | nil =>
      refine ⟨?_, List.IsChain.nil⟩
      intro _ impossible
      cases impossible
  | append_singleton older event inductionHypothesis =>
      have ordered := inductionHypothesis justified.dropLast
      cases event with
      | replaced old new =>
          rw [sentIds_replaced]
          exact ordered
      | sent n delivered file =>
          have step := (justified older _ [] rfl).2.2.1
          rw [sentIds_sent]
          cases shape : sentIds older with
          | nil =>
              rw [shape] at step
              refine ⟨fun first same => ?_, List.isChain_singleton _⟩
              cases same
              exact step
          | cons oldest middle =>
              rw [shape] at ordered step
              refine ⟨fun first same => ordered.1 first same, ?_⟩
              refine List.isChain_append.mpr ⟨ordered.2, List.isChain_singleton _, ?_⟩
              intro last found next new
              cases new
              rw [Option.mem_def.mp found] at step
              exact step

/-- The first and the second send of an id carry one notification. -/
theorem same_content {scanner : JsonScanner} {reader : IsoReader} {log : List Event}
    (justified : Justified (Allowed scanner reader) log) :
    forall n d f m d' f', Event.sent n d f ∈ log -> Event.sent m d' f' ∈ log ->
      n.notificationId = m.notificationId -> n.content = m.content := by
  induction log using List.reverseRecOn with
  | nil =>
      intro n d f m d' f' impossible
      cases impossible
  | append_singleton older event inductionHypothesis =>
      have before := inductionHypothesis justified.dropLast
      intro n d f m d' f' first second same
      rcases List.mem_append.mp first with earlier | newest
      · rcases List.mem_append.mp second with earlier' | newest'
        · exact before n d f m d' f' earlier earlier' same
        · have allowed := justified older event [] rfl
          rw [<- List.mem_singleton.mp newest'] at allowed
          exact allowed.2.1 n d f earlier same
      · rcases List.mem_append.mp second with earlier' | newest'
        · have allowed := justified older event [] rfl
          rw [<- List.mem_singleton.mp newest] at allowed
          exact (allowed.2.1 m d' f' earlier' same.symm).symm
        · cases (List.mem_singleton.mp newest).trans (List.mem_singleton.mp newest').symm
          rfl

/-- In every sequence of cycles over an initially absent state file, wherever
each of them ends: an id leaves the persisted queue only after a send of that
id returned; what is sent is the head of the persisted queue, and one id always
carries one notification; the ids sent start at 1 and go on in order; and a
RECOVERED is sent only after the DOWN before it was delivered. -/
theorem delivery_in_order (scanner : JsonScanner) (reader : IsoReader)
    (environments : List CycleEnvironment) :
    let log := (runCycles scanner reader environments).log
    (forall before old new after, log = before ++ .replaced old new :: after ->
      forall id, id ∈ pendingIds scanner reader old -> id ∉ pendingIds scanner reader new ->
        Delivered before id) ∧
    (forall before n delivered file after, log = before ++ .sent n delivered file :: after ->
      exists s head rest, loadFile scanner reader file = .ok s ∧
        s.pendingNotifications = head :: rest ∧ head.content = n.content) ∧
    (forall n d f m d' f', Event.sent n d f ∈ log -> Event.sent m d' f' ∈ log ->
      n.notificationId = m.notificationId -> n.content = m.content) ∧
    (forall first, (sentIds log).head? = some first -> first = 1) ∧
    (sentIds log).IsChain (fun previous next => next = previous ∨ next = previous + 1) ∧
    (forall before n delivered file after, log = before ++ .sent n delivered file :: after ->
      n.kind = .recovered -> DownDelivered before (n.notificationId - 1)) := by
  rcases @runCycles_settled scanner reader environments with ⟨_, persisted⟩
  have justified := persisted.justified
  have ordered := sentIds_ordered justified
  refine ⟨?_, ?_, same_content justified, ordered.1, ordered.2, ?_⟩
  · exact fun before old new after shape => justified before _ after shape
  · exact fun before n delivered file after shape => (justified before _ after shape).1
  · exact fun before n delivered file after shape => (justified before _ after shape).2.2.2

end DeadMan
end HermesSentinel
