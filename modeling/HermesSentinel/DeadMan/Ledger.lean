import HermesSentinel.DeadMan.CodecContract

namespace HermesSentinel
namespace DeadMan

open Python
open Foundation

/-!
# The notification ledger of a whole run

A run is a sequence of calls on one status: evaluations, acknowledgements and
restarts through the persisted document.  A call that raises leaves the status
as it was.  Beside the status, a history keeps what no snapshot stores: every
intent that ever appeared, every id acknowledged, and the DOWN of the current
outage.

The argument has two layers.  `Movement` says on contents alone what a
successful evaluation can do to the queue, and an evaluation of the model is
one of these movements.  The account of a history is then preserved by each
movement, by each acknowledgement and by each restart.
-/

/-- The anchor is kept or replaced by a later one. -/
def AnchorForward (before after : Option Int) : Prop :=
  forall anchor, before = some anchor -> exists later, after = some later ∧ anchor ≤ later

/-- What an evaluation can do to the queue and to the outage binding. -/
inductive Movement (c c' : StatusContent) : Prop
  | quiet (pending : c'.pending = c.pending) (next : c'.nextNotificationId = c.nextNotificationId)
      (current : c'.currentDown = c.currentDown) (down : c'.state = .down ↔ c.state = .down)
  | opened (intent : IntentContent) (notDown : c.state ≠ .down) (down : c'.state = .down)
      (pending : c'.pending = c.pending ++ [intent])
      (id : intent.notificationId = c.nextNotificationId) (kind : intent.kind = .down)
      (next : c'.nextNotificationId = c.nextNotificationId + 1)
      (dated : c'.stateChangedAt = some intent.instant)
      (current : DeadManCurrentDown) (bound : c'.currentDown = some current)
      (currentId : current.notificationId = c.nextNotificationId)
      (unacknowledged : current.acknowledged = false)
  | closedSilently (down : c.state = .down) (up : c'.state = .up)
      (current : DeadManCurrentDown) (bound : c.currentDown = some current)
      (unacknowledged : current.acknowledged = false)
      (pending : c'.pending = c.pending) (next : c'.nextNotificationId = c.nextNotificationId)
      (unbound : c'.currentDown = none)
  | closedAnnounced (down : c.state = .down) (up : c'.state = .up)
      (current : DeadManCurrentDown) (bound : c.currentDown = some current)
      (acknowledged : current.acknowledged = true)
      (intent : IntentContent) (pending : c'.pending = c.pending ++ [intent])
      (id : intent.notificationId = c.nextNotificationId) (kind : intent.kind = .recovered)
      (next : c'.nextNotificationId = c.nextNotificationId + 1)
      (dated : c'.stateChangedAt = some intent.instant)
      (unbound : c'.currentDown = none)

/-- A successful evaluation is a movement of the queue. -/
theorem movement_of_advanced {f f' : StatusFields} {outcome : DeadManProbeOutcome}
    {now : DateTime} (advanced : Advanced f now outcome f') : Movement f.content f'.content := by
  have allocatedContent : forall {kind : DeadManNotificationKind} {intent : DeadManNotification},
      Allocated f now kind intent -> intent.content.instant = now.instant := by
    intro kind intent allocated
    exact congrArg DateTime.instant allocated.confirmedAt
  have appended : forall intent : DeadManNotification,
      (f.pendingNotifications ++ [intent]).map DeadManNotification.content =
        f.content.pending ++ [intent.content] := by
    intro intent
    rw [List.map_append]
    rfl
  cases advanced with
  | baseline unknown =>
      refine .quiet rfl rfl rfl ?_
      simp [StatusFields.content, unknown]
  | steady up => exact .quiet rfl rfl rfl Iff.rfl
  | recovering down below => exact .quiet rfl rfl rfl Iff.rfl
  | held down => exact .quiet rfl rfl rfl Iff.rfl
  | suspecting notDown below => exact .quiet rfl rfl rfl Iff.rfl
  | recoveredSilently down reached current bound unacknowledged =>
      exact .closedSilently down rfl current bound unacknowledged rfl rfl rfl
  | recoveredAnnounced down reached current bound acknowledged intent allocated =>
      exact .closedAnnounced down rfl current bound acknowledged intent.content (appended intent)
        allocated.id allocated.kind rfl (congrArg some (allocatedContent allocated).symm) rfl
  | confirmed notDown reached intent allocated current currentId unacknowledged =>
      exact .opened intent.content notDown rfl (appended intent) allocated.id allocated.kind rfl
        (congrArg some (allocatedContent allocated).symm) current rfl currentId unacknowledged

/-- Evaluations move the anchor forward. -/
theorem anchorForward_of_advanced {f f' : StatusFields} {outcome : DeadManProbeOutcome}
    {now : DateTime} (advanced : Advanced f now outcome f')
    (notBefore : NotBefore f.stateChangedAt now) :
    AnchorForward f.content.stateChangedAt f'.content.stateChangedAt := by
  intro anchor found
  rcases Option.map_eq_some_iff.mp found with ⟨original, anchored, rfl⟩
  have ordered : original.instant ≤ now.instant := by
    unfold NotBefore at notBefore
    rwa [anchored] at notBefore
  have kept : exists later, f.content.stateChangedAt = some later ∧ original.instant ≤ later :=
    ⟨original.instant, found, Int.le_refl _⟩
  have moved : exists later, some now.instant = some later ∧ original.instant ≤ later :=
    ⟨now.instant, rfl, ordered⟩
  cases advanced with
  | steady up => exact kept
  | recovering down below => exact kept
  | held down => exact kept
  | suspecting notDown below => exact kept
  | baseline unknown => exact moved
  | recoveredSilently down reached current bound unacknowledged => exact moved
  | recoveredAnnounced down reached current bound acknowledged intent allocated => exact moved
  | confirmed notDown reached intent allocated current currentId unacknowledged => exact moved

theorem movement_of_advance {s s' : DeadManStatus} {outcome : DeadManProbeOutcome}
    {now : DateTime} (advanced : advanceDeadmanStatus s outcome now = .ok s') :
    Movement s.toStatusFields.content s'.toStatusFields.content ∧
      AnchorForward s.toStatusFields.content.stateChangedAt
        s'.toStatusFields.content.stateChangedAt := by
  rcases advance_cases advanced with ⟨_, notBefore, branch⟩
  exact ⟨movement_of_advanced branch, anchorForward_of_advanced branch notBefore⟩

/-- The content after the oldest intent was acknowledged. -/
def StatusContent.acknowledged (c : StatusContent) (id : Int) (rest : List IntentContent) :
    StatusContent :=
  { c with
    pending := rest
    currentDown := c.currentDown.map fun current =>
      if current.notificationId = id then { current with acknowledged := true } else current }

theorem content_of_acknowledge {s s' : DeadManStatus} {id : Int}
    (acknowledged : acknowledgeDeadmanNotification s id = .ok s') :
    exists head rest, s.toStatusFields.content.pending = head :: rest ∧ id = head.notificationId ∧
      s'.toStatusFields.content = s.toStatusFields.content.acknowledged id rest := by
  rcases acknowledge_cases acknowledged with ⟨head, rest, shape, same, fields⟩
  refine ⟨head.content, rest.map DeadManNotification.content, ?_, same, ?_⟩
  · rw [StatusFields.content, shape]
    rfl
  · rw [fields, same]
    rfl

inductive Operation
  | advance (outcome : DeadManProbeOutcome) (now : DateTime)
  | acknowledge (notificationId : Int)
  | restart

section Runs

variable (scanner : JsonScanner) (reader : IsoReader)

def call (s : DeadManStatus) : Operation -> Fallible DeadManStatus
  | .advance outcome now => advanceDeadmanStatus s outcome now
  | .acknowledge notificationId => acknowledgeDeadmanNotification s notificationId
  | .restart => do
      let payload ← encodeDeadmanStatus s
      decodeDeadmanStatus scanner reader payload

/-- A run as remembered from outside: the current status, every intent that
appeared in a queue, every id that was acknowledged, and the id that appeared
when the current outage was entered. -/
structure History where
  status : DeadManStatus
  created : List IntentContent
  acknowledged : List Int
  outage : Option Int

/-- The run before its first call. -/
def History.initial : History where
  status := DeadManStatus.initial
  created := []
  acknowledged := []
  outage := none

def History.content (h : History) : StatusContent :=
  h.status.toStatusFields.content

/-- The intents that are pending after a call and were not before it. -/
def appeared (before after : List IntentContent) : List IntentContent :=
  after.filter fun intent => intent ∉ before

/-- The acknowledged ids once the call has succeeded. -/
def History.acknowledgedAfter (h : History) : Operation -> List Int
  | .acknowledge notificationId => h.acknowledged ++ [notificationId]
  | _ => h.acknowledged

/-- The outage goes with the state; entering DOWN starts one, and its id is the
one that appeared. -/
def History.outageAfter (h : History) (s' : DeadManStatus) : Option Int :=
  if s'.state = .down then
    if h.status.state = .down then h.outage
    else (appeared h.content.pending s'.toStatusFields.content.pending).getLast?.map
      IntentContent.notificationId
  else none

def History.after (h : History) (operation : Operation) (s' : DeadManStatus) : History where
  status := s'
  created := h.created ++ appeared h.content.pending s'.toStatusFields.content.pending
  acknowledged := h.acknowledgedAfter operation
  outage := h.outageAfter s'

/-- A call that raises leaves no trace. -/
def record (h : History) (operation : Operation) : History :=
  match call scanner reader h.status operation with
  | .error _ => h
  | .ok s' => h.after operation s'

/-- The history of a run from the initial status. -/
def history (operations : List Operation) : History :=
  operations.foldl (record scanner reader) History.initial

end Runs

/-! ## The account -/

/-- The books of a run balance: ids are handed out in order and never again,
acknowledgements consume the oldest, and the queue is what is left. -/
structure Books (h : History) : Prop where
  ids : h.created.map IntentContent.notificationId = consecutive 1 h.created.length
  next : h.content.nextNotificationId = h.created.length + 1
  times : (h.created.map IntentContent.instant).Pairwise (· ≤ ·)
  dated : forall intent, intent ∈ h.created ->
    exists anchor, h.content.stateChangedAt = some anchor ∧ intent.instant ≤ anchor
  acknowledged : h.acknowledged = consecutive 1 h.acknowledged.length
  bounded : h.acknowledged.length ≤ h.created.length
  pending : h.content.pending = h.created.drop h.acknowledged.length

/-- The outage binding of the snapshot agrees with the history. -/
structure OutageBooks (h : History) : Prop where
  outage : h.outage = h.content.currentDown.map DeadManCurrentDown.notificationId
  acknowledged : forall current, h.content.currentDown = some current ->
    (current.acknowledged = true ↔ current.notificationId ∈ h.acknowledged)
  kind : forall current, h.content.currentDown = some current ->
    exists intent, intent ∈ h.created ∧ intent.notificationId = current.notificationId ∧
      intent.kind = .down

structure Account (h : History) : Prop where
  books : Books h
  outages : OutageBooks h

theorem appeared_append (before new : List IntentContent)
    (fresh : forall intent, intent ∈ new -> intent ∉ before) :
    appeared before (before ++ new) = new := by
  have old : before.filter (fun intent => intent ∉ before) = [] := by
    apply List.filter_eq_nil_iff.mpr
    intro intent member absent
    exact of_decide_eq_true absent member
  rw [appeared, List.filter_append, old, List.nil_append]
  apply List.filter_eq_self.mpr
  intro intent member
  exact decide_eq_true (fresh intent member)

theorem appeared_of_subset {before after : List IntentContent} (subset : after ⊆ before) :
    appeared before after = [] := by
  apply List.filter_eq_nil_iff.mpr
  intro intent member absent
  exact of_decide_eq_true absent (subset member)

theorem account_initial : Account History.initial where
  books := {
    ids := rfl
    next := rfl
    times := .nil
    dated := by
      intro _ impossible
      cases impossible
    acknowledged := rfl
    bounded := Nat.le_refl 0
    pending := rfl }
  outages := {
    outage := rfl
    acknowledged := by
      intro _ impossible
      cases impossible
    kind := by
      intro _ impossible
      cases impossible }

namespace Books

variable {h : History} (books : Books h)

include books

/-- Pending intents were created, under an id below the allocator. -/
theorem pending_lt {intent : IntentContent} (member : intent ∈ h.content.pending) :
    intent.notificationId < h.content.nextNotificationId := by
  rw [books.pending] at member
  have id : intent.notificationId ∈ h.created.map IntentContent.notificationId :=
    List.mem_map.mpr ⟨intent, List.mem_of_mem_drop member, rfl⟩
  rw [books.ids, mem_consecutive] at id
  have next := books.next
  omega

theorem acknowledged_lt {id : Int} (member : id ∈ h.acknowledged) :
    id < h.content.nextNotificationId := by
  rw [books.acknowledged, mem_consecutive] at member
  have next := books.next
  have bounded := books.bounded
  omega

/-- A freshly allocated intent was not pending before. -/
theorem appeared_allocated {intent : IntentContent}
    (id : intent.notificationId = h.content.nextNotificationId) :
    appeared h.content.pending (h.content.pending ++ [intent]) = [intent] := by
  apply appeared_append
  intro other new pending
  rw [List.mem_singleton.mp new] at pending
  have below := books.pending_lt pending
  omega

/-- Nothing is created and nothing leaves the queue. -/
theorem kept {h' : History} (created : h'.created = h.created)
    (acknowledged : h'.acknowledged = h.acknowledged)
    (pending : h'.content.pending = h.content.pending)
    (next : h'.content.nextNotificationId = h.content.nextNotificationId)
    (forward : AnchorForward h.content.stateChangedAt h'.content.stateChangedAt) : Books h' where
  ids := by rw [created, books.ids]
  next := by rw [next, books.next, created]
  times := by rw [created]; exact books.times
  dated := by
    rw [created]
    intro intent member
    rcases books.dated intent member with ⟨anchor, found, before⟩
    rcases forward anchor found with ⟨later, found', after⟩
    exact ⟨later, found', Int.le_trans before after⟩
  acknowledged := by rw [acknowledged]; exact books.acknowledged
  bounded := by rw [acknowledged, created]; exact books.bounded
  pending := by rw [pending, acknowledged, created]; exact books.pending

/-- One intent is allocated at the tail. -/
theorem allocated {h' : History} {intent : IntentContent}
    (created : h'.created = h.created ++ [intent])
    (acknowledged : h'.acknowledged = h.acknowledged)
    (pending : h'.content.pending = h.content.pending ++ [intent])
    (id : intent.notificationId = h.content.nextNotificationId)
    (next : h'.content.nextNotificationId = h.content.nextNotificationId + 1)
    (dated : h'.content.stateChangedAt = some intent.instant)
    (forward : AnchorForward h.content.stateChangedAt h'.content.stateChangedAt) : Books h' := by
  have older : forall other, other ∈ h.created -> other.instant ≤ intent.instant := by
    intro other member
    rcases books.dated other member with ⟨anchor, found, before⟩
    rcases forward anchor found with ⟨later, found', after⟩
    rw [dated] at found'
    cases found'
    exact Int.le_trans before after
  have length : h'.created.length = h.created.length + 1 := by
    rw [created, List.length_append, List.length_singleton]
  constructor
  · rw [length, consecutive_succ, created, List.map_append, books.ids, List.map_singleton, id,
      books.next, Int.add_comm]
  · rw [next, books.next, length]
    omega
  · rw [created, List.map_append, List.map_singleton]
    refine List.pairwise_append.mpr ⟨books.times, List.pairwise_singleton _ _, ?_⟩
    intro first member second last
    rcases List.mem_map.mp member with ⟨other, original, rfl⟩
    rw [List.mem_singleton.mp last]
    exact older other original
  · rw [created]
    intro other member
    refine ⟨intent.instant, dated, ?_⟩
    rcases List.mem_append.mp member with old | new
    · exact older other old
    · rw [List.mem_singleton.mp new]
  · rw [acknowledged]
    exact books.acknowledged
  · rw [acknowledged, length]
    exact Nat.le_succ_of_le books.bounded
  · rw [pending, acknowledged, created, List.drop_append_of_le_length books.bounded, books.pending]

/-- The oldest intent is the one after the acknowledged ones. -/
theorem head_id {head : IntentContent} {rest : List IntentContent}
    (shape : h.content.pending = head :: rest) :
    head.notificationId = h.acknowledged.length + 1 ∧
      h.acknowledged.length < h.created.length ∧
      rest = h.created.drop (h.acknowledged.length + 1) := by
  have queue := books.pending
  rw [shape] at queue
  have ids := congrArg (List.map IntentContent.notificationId) queue
  rw [List.map_drop, books.ids, drop_consecutive 1 books.bounded] at ids
  have inside : h.acknowledged.length < h.created.length := by
    by_contra outside
    rw [List.drop_eq_nil_of_le (Nat.le_of_not_lt outside)] at queue
    cases queue
  rcases Nat.exists_eq_add_of_lt inside with ⟨others, count⟩
  rw [show h.created.length - h.acknowledged.length = others + 1 by omega, List.map_cons,
    consecutive, List.cons.injEq] at ids
  refine ⟨by rw [ids.1, Int.add_comm], inside, ?_⟩
  rw [<- List.tail_drop, <- queue]
  rfl

/-- The oldest intent is acknowledged. -/
theorem dropped {h' : History} {head : IntentContent} {rest : List IntentContent}
    (shape : h.content.pending = head :: rest) (created : h'.created = h.created)
    (acknowledged : h'.acknowledged = h.acknowledged ++ [head.notificationId])
    (pending : h'.content.pending = rest)
    (next : h'.content.nextNotificationId = h.content.nextNotificationId)
    (anchor : h'.content.stateChangedAt = h.content.stateChangedAt) : Books h' := by
  rcases books.head_id shape with ⟨headId, inside, left⟩
  have length : h'.acknowledged.length = h.acknowledged.length + 1 := by
    rw [acknowledged, List.length_append, List.length_singleton]
  constructor
  · rw [created, books.ids]
  · rw [next, books.next, created]
  · rw [created]
    exact books.times
  · rw [created, anchor]
    exact books.dated
  · rw [length, consecutive_succ, acknowledged, <- books.acknowledged, headId, Int.add_comm]
  · rw [length, created]
    exact inside
  · rw [pending, left, length, created]

end Books

/-! ## One call -/

/-- What one call of a run does to the queue. -/
structure CallEffect (h : History) (operation : Operation) (h' : History) : Prop where
  entersDown : h.status.state ≠ .down -> h'.status.state = .down ->
    exists intent, intent.kind = .down ∧ h'.content.pending = h.content.pending ++ [intent] ∧
      h'.outage = some intent.notificationId
  leavesDown : h.status.state = .down -> h'.status.state ≠ .down ->
    h'.status.state = .up ∧ exists outage, h.outage = some outage ∧
      (outage ∈ h.acknowledged -> exists intent, intent.kind = .recovered ∧
        intent.notificationId = outage + 1 ∧ h'.content.pending = h.content.pending ++ [intent]) ∧
      (outage ∉ h.acknowledged -> h'.content.pending = h.content.pending)
  otherwise : (h.status.state = .down ↔ h'.status.state = .down) ->
    h'.content.pending = h.content.pending ∨
      exists head, operation = .acknowledge head.notificationId ∧
        h.content.pending = head :: h'.content.pending ∧
        h'.acknowledged = h.acknowledged ++ [head.notificationId]

/-- The books after a call, and what the call did. -/
structure Recorded (h : History) (operation : Operation) (h' : History) : Prop where
  account : Account h'
  effect : CallEffect h operation h'

/-- A call that changes neither the queue nor the outage. -/
theorem Account.recorded_quiet {h h' : History} (account : Account h) (operation : Operation)
    (created : h'.created = h.created) (acknowledged : h'.acknowledged = h.acknowledged)
    (outage : h'.outage = h.outage)
    (pending : h'.content.pending = h.content.pending)
    (next : h'.content.nextNotificationId = h.content.nextNotificationId)
    (current : h'.content.currentDown = h.content.currentDown)
    (down : h'.status.state = .down ↔ h.status.state = .down)
    (forward : AnchorForward h.content.stateChangedAt h'.content.stateChangedAt) :
    Recorded h operation h' where
  account := {
    books := account.books.kept created acknowledged pending next forward
    outages := {
      outage := by rw [outage, current]; exact account.outages.outage
      acknowledged := by rw [current, acknowledged]; exact account.outages.acknowledged
      kind := by rw [current, created]; exact account.outages.kind } }
  effect := {
    entersDown := fun notDown isDown => absurd (down.mp isDown) notDown
    leavesDown := fun isDown notDown => absurd (down.mpr isDown) notDown
    otherwise := fun _ => Or.inl pending }

section Calls

variable {scanner : JsonScanner} {reader : IsoReader}

theorem record_error {h : History} {operation : Operation} {e : Raised}
    (failed : call scanner reader h.status operation = .error e) :
    record scanner reader h operation = h := by
  unfold record
  rw [failed]

/-- A call that raises leaves everything as it was. -/
theorem Account.recorded_error {h : History} (account : Account h) {operation : Operation}
    {e : Raised} (failed : call scanner reader h.status operation = .error e) :
    Recorded h operation (record scanner reader h operation) := by
  rw [record_error failed]
  refine account.recorded_quiet operation rfl rfl rfl rfl rfl rfl Iff.rfl ?_
  exact fun anchor found => ⟨anchor, found, Int.le_refl anchor⟩

/-- A restart goes through the persisted document and keeps the content. -/
theorem content_of_restart {s s' : DeadManStatus}
    (restarted : call scanner reader s .restart = .ok s') :
    s'.toStatusFields.content = s.toStatusFields.content := by
  rcases bind_eq_ok.mp restarted with ⟨payload, encoded, decoded⟩
  rw [decode_encode scanner reader encoded] at decoded
  cases decoded
  exact s.content_inUtc

theorem record_ok {h : History} {operation : Operation} {s' : DeadManStatus}
    (succeeded : call scanner reader h.status operation = .ok s') :
    record scanner reader h operation = h.after operation s' := by
  unfold record
  rw [succeeded]

theorem Account.outage_none {h : History} (account : Account h) (notDown : h.status.state ≠ .down) :
    h.outage = none := by
  have unbound := currentDown_eq_none h.status.admissible notDown
  rw [account.outages.outage, History.content, StatusFields.content, unbound]
  rfl

theorem Account.outage_bound {h : History} (account : Account h) {current : DeadManCurrentDown}
    (bound : h.content.currentDown = some current) : h.outage = some current.notificationId := by
  rw [account.outages.outage, bound]
  rfl

theorem outageBooks_unbound {h : History} (outage : h.outage = none)
    (unbound : h.content.currentDown = none) : OutageBooks h where
  outage := by
    rw [outage, unbound]
    rfl
  acknowledged := by
    intro current bound
    cases unbound.symm.trans bound
  kind := by
    intro current bound
    cases unbound.symm.trans bound

/-- As long as DOWN lasts, or is not entered, the outage stays what it is. -/
theorem Account.outageAfter_same {h : History} (account : Account h) {s' : DeadManStatus}
    (down : s'.state = .down ↔ h.status.state = .down) : h.outageAfter s' = h.outage := by
  unfold History.outageAfter
  by_cases isDown : s'.state = .down
  · rw [if_pos isDown, if_pos (down.mp isDown)]
  · rw [if_neg isDown, account.outage_none fun was => isDown (down.mpr was)]

/-- The bound outage is the last id handed out. -/
theorem History.currentDown_id {h : History} {current : DeadManCurrentDown}
    (bound : h.content.currentDown = some current) :
    current.notificationId + 1 = h.content.nextNotificationId := by
  have id := (binding_of_currentDown h.status.admissible bound).2.1
  show current.notificationId + 1 = h.status.nextNotificationId
  omega

theorem Account.recorded_advance {h : History} (account : Account h)
    {outcome : DeadManProbeOutcome} {now : DateTime} {s' : DeadManStatus}
    (advanced : advanceDeadmanStatus h.status outcome now = .ok s') :
    Recorded h (.advance outcome now) (h.after (.advance outcome now) s') := by
  have books := account.books
  rcases movement_of_advance advanced with ⟨movement, forward⟩
  cases movement with
  | quiet pending next current down =>
      have none_new : appeared h.content.pending s'.toStatusFields.content.pending = [] :=
        appeared_of_subset (by rw [pending]; exact List.Subset.refl _)
      refine account.recorded_quiet _ ?_ rfl (account.outageAfter_same down) pending next current
        down forward
      rw [History.after, none_new, List.append_nil]
  | opened intent notDown down pending id kind next dated current bound currentId unacknowledged =>
      have new : appeared h.content.pending s'.toStatusFields.content.pending = [intent] := by
        rw [pending]
        exact books.appeared_allocated id
      have created : (h.after (.advance outcome now) s').created = h.created ++ [intent] := by
        rw [History.after, new]
      have entered : h.outageAfter s' = some intent.notificationId := by
        have isDown : s'.state = .down := down
        have wasNotDown : h.status.state ≠ .down := notDown
        rw [History.outageAfter, if_pos isDown, if_neg wasNotDown, new]
        rfl
      constructor
      · constructor
        · exact books.allocated created rfl pending id next dated forward
        · constructor
          · exact entered.trans (by
              rw [History.content, History.after, bound, Option.map_some, currentId, id])
          · intro found same
            cases bound.symm.trans same
            rw [unacknowledged]
            constructor
            · intro impossible
              cases impossible
            · intro member
              have below := books.acknowledged_lt member
              exact absurd currentId (Int.ne_of_lt below)
          · intro found same
            cases bound.symm.trans same
            refine ⟨intent, ?_, id.trans currentId.symm, kind⟩
            rw [created]
            exact List.mem_append_right _ List.mem_cons_self
      · constructor
        · exact fun _ _ => ⟨intent, kind, pending, entered⟩
        · exact fun was _ => absurd was notDown
        · exact fun same => absurd (same.mpr down) notDown
  | closedSilently down up current bound unacknowledged pending next unbound =>
      have none_new : appeared h.content.pending s'.toStatusFields.content.pending = [] :=
        appeared_of_subset (by rw [pending]; exact List.Subset.refl _)
      have notDown : s'.state ≠ .down := by
        rw [show s'.state = .up from up]
        decide
      have outage := account.outage_bound bound
      constructor
      · constructor
        · exact books.kept (by rw [History.after, none_new, List.append_nil]) rfl pending next
            forward
        · exact outageBooks_unbound (if_neg notDown) unbound
      · constructor
        · exact fun was _ => absurd down was
        · refine fun _ _ => ⟨up, current.notificationId, outage, ?_, fun _ => pending⟩
          intro member
          have acknowledged := (account.outages.acknowledged current bound).mpr member
          rw [unacknowledged] at acknowledged
          cases acknowledged
        · exact fun same => absurd (same.mp down) notDown
  | closedAnnounced down up current bound acknowledged intent pending id kind next dated unbound =>
      have new : appeared h.content.pending s'.toStatusFields.content.pending = [intent] := by
        rw [pending]
        exact books.appeared_allocated id
      have notDown : s'.state ≠ .down := by
        rw [show s'.state = .up from up]
        decide
      have outage := account.outage_bound bound
      constructor
      · constructor
        · exact books.allocated (by rw [History.after, new]) rfl pending id next dated forward
        · exact outageBooks_unbound (if_neg notDown) unbound
      · constructor
        · exact fun was _ => absurd down was
        · refine fun _ _ => ⟨up, current.notificationId, outage, fun _ => ?_, ?_⟩
          · exact ⟨intent, kind, id.trans (History.currentDown_id bound).symm, pending⟩
          · intro absent
            exact absurd ((account.outages.acknowledged current bound).mp acknowledged) absent
        · exact fun same => absurd (same.mp down) notDown

/-- The outage books after the oldest intent was acknowledged. -/
theorem OutageBooks.acknowledge {h h' : History} (outages : OutageBooks h) {id : Int}
    {rest : List IntentContent} (content : h'.content = h.content.acknowledged id rest)
    (created : h'.created = h.created) (acknowledged : h'.acknowledged = h.acknowledged ++ [id])
    (outage : h'.outage = h.outage) : OutageBooks h' := by
  have marked : h'.content.currentDown = h.content.currentDown.map fun current =>
      if current.notificationId = id then { current with acknowledged := true } else current := by
    rw [content]
    rfl
  constructor
  · rw [outage, outages.outage, marked, Option.map_map]
    congr 1
    funext current
    show current.notificationId = (ite _ _ _ : DeadManCurrentDown).notificationId
    split <;> rfl
  · intro current bound
    rw [marked] at bound
    rcases Option.map_eq_some_iff.mp bound with ⟨original, found, rfl⟩
    rw [acknowledged, List.mem_append, List.mem_singleton]
    split
    · rename_i named
      exact ⟨fun _ => Or.inr named, fun _ => rfl⟩
    · rename_i other
      rw [outages.acknowledged original found, or_iff_left other]
  · intro current bound
    rw [marked] at bound
    rcases Option.map_eq_some_iff.mp bound with ⟨original, found, rfl⟩
    rcases outages.kind original found with ⟨intent, member, same, kind⟩
    refine ⟨intent, by rw [created]; exact member, ?_, kind⟩
    split <;> exact same

theorem Account.recorded_acknowledge {h : History} (account : Account h) {id : Int}
    {s' : DeadManStatus} (acknowledged : acknowledgeDeadmanNotification h.status id = .ok s') :
    Recorded h (.acknowledge id) (h.after (.acknowledge id) s') := by
  rcases content_of_acknowledge acknowledged with ⟨head, rest, shape, same, content⟩
  have state : s'.state = h.status.state := congrArg StatusContent.state content
  have pending : s'.toStatusFields.content.pending = rest := by
    rw [content]
    rfl
  have none_new : appeared h.content.pending s'.toStatusFields.content.pending = [] := by
    apply appeared_of_subset
    rw [pending, History.content, shape]
    exact List.subset_cons_self head rest
  have created : (h.after (.acknowledge id) s').created = h.created := by
    rw [History.after, none_new, List.append_nil]
  have next : s'.toStatusFields.content.nextNotificationId = h.content.nextNotificationId := by
    rw [content]
    rfl
  have anchor : s'.toStatusFields.content.stateChangedAt = h.content.stateChangedAt := by
    rw [content]
    rfl
  have outage : h.outageAfter s' = h.outage := account.outageAfter_same (by rw [state])
  constructor
  · constructor
    · exact account.books.dropped shape created (by rw [<- same]; rfl) pending next anchor
    · exact account.outages.acknowledge content created rfl outage
  · constructor
    · exact fun notDown isDown => absurd (state.symm.trans isDown) notDown
    · exact fun isDown notDown => absurd (state.trans isDown) notDown
    · intro _
      refine Or.inr ⟨head, by rw [same], ?_, by rw [<- same]; rfl⟩
      exact shape.trans (congrArg (List.cons head) pending.symm)

theorem Account.recorded_restart {h : History} (account : Account h) {s' : DeadManStatus}
    (restarted : call scanner reader h.status .restart = .ok s') :
    Recorded h .restart (h.after .restart s') := by
  have content := content_of_restart restarted
  have state : s'.state = h.status.state := congrArg StatusContent.state content
  have none_new : appeared h.content.pending s'.toStatusFields.content.pending = [] := by
    rw [content]
    exact appeared_of_subset (List.Subset.refl _)
  refine account.recorded_quiet .restart ?_ rfl (account.outageAfter_same (by rw [state])) ?_ ?_ ?_
    ?_ ?_
  · rw [History.after, none_new, List.append_nil]
  · exact congrArg StatusContent.pending content
  · exact congrArg StatusContent.nextNotificationId content
  · exact congrArg StatusContent.currentDown content
  · show s'.state = .down ↔ _
    rw [state]
  · intro anchor found
    exact ⟨anchor, (congrArg StatusContent.stateChangedAt content).trans found, Int.le_refl anchor⟩

/-- The step lemma: any call keeps the books. -/
theorem Account.recorded {h : History} (account : Account h) (operation : Operation) :
    Recorded h operation (record scanner reader h operation) := by
  cases result : call scanner reader h.status operation with
  | error e => exact account.recorded_error result
  | ok s' =>
      rw [record_ok result]
      cases operation with
      | advance outcome now => exact account.recorded_advance result
      | acknowledge id => exact account.recorded_acknowledge result
      | restart => exact account.recorded_restart result

/-- The run lemma: the books balance after every run. -/
theorem account_history (operations : List Operation) :
    Account (history scanner reader operations) := by
  have run : forall h, Account h -> Account (operations.foldl (record scanner reader) h) := by
    induction operations with
    | nil => exact fun _ account => account
    | cons operation rest inductionHypothesis =>
        exact fun h account => inductionHypothesis _ (account.recorded operation).account
  exact run _ account_initial

end Calls

/-- In every run from the initial status, the intents ever created carry the
ids from 1 up to the allocator in creation order and at non-decreasing times;
the acknowledged ids are the first of them in that order, and the queue is
exactly the rest, unchanged.  Every further call creates, acknowledges or
leaves alone what `CallEffect` says: one DOWN on entering DOWN, a RECOVERED on
leaving it just when the outage's DOWN had been acknowledged, and otherwise at
most the removal of the acknowledged head. -/
theorem whole_run_ledger (scanner : JsonScanner) (reader : IsoReader)
    (operations : List Operation) :
    let h := history scanner reader operations
    h.created.map IntentContent.notificationId = consecutive 1 h.created.length ∧
      h.content.nextNotificationId = h.created.length + 1 ∧
      (h.created.map IntentContent.instant).Pairwise (· ≤ ·) ∧
      (exists m, h.acknowledged = consecutive 1 m ∧ h.content.pending = h.created.drop m) ∧
      (forall outage, h.outage = some outage -> h.status.state = .down ∧
        exists intent, intent ∈ h.created ∧ intent.notificationId = outage ∧ intent.kind = .down) ∧
      forall operation, CallEffect h operation (record scanner reader h operation) := by
  have account := @account_history scanner reader operations
  have books := account.books
  refine ⟨books.ids, books.next, books.times, ⟨_, books.acknowledged, books.pending⟩, ?_, ?_⟩
  · intro outage found
    rw [account.outages.outage] at found
    rcases Option.map_eq_some_iff.mp found with ⟨current, bound, rfl⟩
    exact ⟨(binding_of_currentDown (DeadManStatus.admissible _) bound).1,
      account.outages.kind current bound⟩
  · exact fun operation => (account.recorded operation).effect

end DeadMan
end HermesSentinel
