import HermesSentinel.DeadMan.CodecExactness

namespace HermesSentinel
namespace DeadMan

open Python
open Foundation

/-!
# The codec as a round trip

A snapshot without its UTC offsets is its `content`: timestamps are replaced by
the instants they denote.  Encoding forgets exactly the offsets, so decoding
what was encoded gives a status with the same content, dated in UTC.
-/

/-- What a notification intent says: its time counts as an instant. -/
structure IntentContent where
  notificationId : Int
  kind : DeadManNotificationKind
  fromState : DeadManState
  toState : DeadManState
  instant : Int
  deriving DecidableEq

def DeadManNotification.content (n : DeadManNotification) : IntentContent where
  notificationId := n.notificationId
  kind := n.kind
  fromState := n.transition.fromState
  toState := n.transition.toState
  instant := n.confirmedAt.instant

structure StatusContent where
  state : DeadManState
  consecutiveFailures : Int
  consecutiveSuccesses : Int
  stateChangedAt : Option Int
  pending : List IntentContent
  nextNotificationId : Int
  currentDown : Option DeadManCurrentDown
  deriving DecidableEq

def StatusFields.content (f : StatusFields) : StatusContent where
  state := f.state
  consecutiveFailures := f.consecutiveFailures
  consecutiveSuccesses := f.consecutiveSuccesses
  stateChangedAt := f.stateChangedAt.map DateTime.instant
  pending := f.pendingNotifications.map DeadManNotification.content
  nextNotificationId := f.nextNotificationId
  currentDown := f.currentDown

/-- The timestamps of a snapshot. -/
def StatusFields.timestamps (f : StatusFields) : List DateTime :=
  f.stateChangedAt.toList ++ f.pendingNotifications.map DeadManNotification.confirmedAt

/-- Every timestamp has a UTC value in the years 1 to 9999. -/
def StatusFields.UtcRepresentable (f : StatusFields) : Prop :=
  forall value, value ∈ f.timestamps -> value.UtcRepresentable

/-- Every timestamp is given in UTC. -/
def StatusFields.InUtc (f : StatusFields) : Prop :=
  forall value, value ∈ f.timestamps -> exists wall, value = DateTime.utc wall

theorem TransitionSpelled.sortKeys_eq {reader : IsoReader} {transition : DeadManTransition}
    {time : PyStr} {v : Json} (spelled : TransitionSpelled reader transition time v) :
    Json.sortKeys v = Json.sortKeys (transitionDocument transition time) := by
  rcases spelled with ⟨members, rfl, perm, _⟩
  have distinct : transitionFields.Nodup := by decide
  exact Json.sortKeys_object_eq perm distinct rfl

theorem NotificationSpelled.sortKeys_eq {reader : IsoReader} {notification : DeadManNotification}
    {time : PyStr} {v : Json} (spelled : NotificationSpelled reader notification time v) :
    Json.sortKeys v = Json.sortKeys (notificationDocument notification time) := by
  rcases spelled with ⟨members, transition, rfl, perm, nested⟩
  have distinct : notificationFields.Nodup := by decide
  refine Json.sortKeys_object_eq perm distinct ?_
  simp only [Json.sortKeysMembers, nested.sortKeys_eq]

theorem NotificationsSpelled.sortKeys_eq {reader : IsoReader} :
    forall {notifications : List DeadManNotification} {times : List PyStr} {elements : List Json},
      NotificationsSpelled reader notifications times elements ->
        Json.sortKeysItems elements =
          Json.sortKeysItems (List.zipWith notificationDocument notifications times)
  | [], [], [], _ => rfl
  | notification :: rest, time :: times, element :: elements, spelled => by
      simp only [List.zipWith_cons_cons, Json.sortKeysItems, spelled.1.sortKeys_eq,
        NotificationsSpelled.sortKeys_eq spelled.2]

theorem CurrentDownSpelled.sortKeys_eq {v : Json} {current : Option DeadManCurrentDown}
    (spelled : CurrentDownSpelled v current) :
    Json.sortKeys v = Json.sortKeys (currentDownDocument current) := by
  cases current with
  | none => rw [show v = .null from spelled, currentDownDocument]
  | some current =>
      rcases spelled with ⟨members, rfl, perm⟩
      have distinct : currentDownFields.Nodup := by decide
      exact Json.sortKeys_object_eq perm distinct rfl

/-- A spelling of a snapshot is its document, up to the order of members. -/
theorem StatusSpelled.sortKeys_eq {reader : IsoReader} {f : StatusFields} {anchor : Option PyStr}
    {times : List PyStr} {v : Json} (spelled : StatusSpelled reader f anchor times v) :
    Json.sortKeys v = Json.sortKeys (statusDocument f anchor times) := by
  rcases spelled with ⟨members, elements, current, rfl, perm, _, pending, binding⟩
  have distinct : stateFields.Nodup := by decide
  refine Json.sortKeys_object_eq perm distinct ?_
  simp only [Json.sortKeysMembers, Json.sortKeys, pending.sortKeys_eq, binding.sortKeys_eq]

theorem transitionSpelled_sorted {reader : IsoReader} {transition : DeadManTransition}
    {time : PyStr} (read : Spells reader time transition.confirmedAt) :
    TransitionSpelled reader transition time (Json.sortKeys (transitionDocument transition time)) := by
  rcases Json.exists_sortKeys_object _ with ⟨members, shape, perm⟩
  exact ⟨members, shape, perm, read⟩

theorem notificationSpelled_sorted {reader : IsoReader} {notification : DeadManNotification}
    {time : PyStr} (read : Spells reader time notification.confirmedAt) :
    NotificationSpelled reader notification time
      (Json.sortKeys (notificationDocument notification time)) := by
  rcases Json.exists_sortKeys_object _ with ⟨members, shape, perm⟩
  exact ⟨members, _, shape, perm, transitionSpelled_sorted read⟩

/-- The texts read as the times of the notifications. -/
def TimesSpelled (reader : IsoReader) (times : List PyStr)
    (notifications : List DeadManNotification) : Prop :=
  List.Forall₂ (fun time notification => Spells reader time notification.confirmedAt) times
    notifications

theorem notificationsSpelled_sorted {reader : IsoReader} {notifications : List DeadManNotification}
    {times : List PyStr} (read : TimesSpelled reader times notifications) :
    NotificationsSpelled reader notifications times
      (Json.sortKeysItems (List.zipWith notificationDocument notifications times)) := by
  induction read with
  | nil => trivial
  | cons first rest inductionHypothesis =>
      exact ⟨notificationSpelled_sorted first, inductionHypothesis⟩

theorem currentDownSpelled_sorted (current : Option DeadManCurrentDown) :
    CurrentDownSpelled (Json.sortKeys (currentDownDocument current)) current := by
  cases current with
  | none => rfl
  | some current =>
      rcases Json.exists_sortKeys_object _ with ⟨members, shape, perm⟩
      exact ⟨members, shape, perm⟩

theorem statusSpelled_sorted {reader : IsoReader} {f : StatusFields} {anchor : Option PyStr}
    {times : List PyStr} (anchorRead : AnchorSpelled reader anchor f.stateChangedAt)
    (timesRead : TimesSpelled reader times f.pendingNotifications) :
    StatusSpelled reader f anchor times (Json.sortKeys (statusDocument f anchor times)) := by
  rcases Json.exists_sortKeys_object _ with ⟨members, shape, perm⟩
  refine ⟨members, _, _, shape, ?_, anchorRead, notificationsSpelled_sorted timesRead,
    currentDownSpelled_sorted _⟩
  cases anchor <;> exact perm

theorem strict_notificationDocuments (notifications : List DeadManNotification)
    (times : List PyStr) :
    StrictItems (List.zipWith notificationDocument notifications times) := by
  have transitionNames : transitionFields.Nodup := by decide
  have names : notificationFields.Nodup := by decide
  induction notifications generalizing times with
  | nil => trivial
  | cons notification rest inductionHypothesis =>
      cases times with
      | nil => trivial
      | cons time times =>
          exact ⟨⟨names, trivial, trivial, ⟨transitionNames, trivial, trivial, trivial, trivial⟩,
            trivial⟩, inductionHypothesis times⟩

theorem strict_statusDocument (f : StatusFields) (anchor : Option PyStr) (times : List PyStr) :
    Strict (statusDocument f anchor times) := by
  have names : stateFields.Nodup := by decide
  have currentNames : currentDownFields.Nodup := by decide
  have anchorStrict : Strict (timestampDocument anchor) := by cases anchor <;> trivial
  have currentStrict : Strict (currentDownDocument f.currentDown) := by
    cases f.currentDown with
    | none => trivial
    | some current => exact ⟨currentNames, trivial, trivial, trivial⟩
  exact ⟨names, trivial, trivial, trivial, trivial, anchorStrict,
    strict_notificationDocuments f.pendingNotifications times, trivial, currentStrict, trivial⟩

theorem fits_notificationDocuments (depth : Nat) (notifications : List DeadManNotification)
    {times : List PyStr} (simple : forall time, time ∈ times -> Json.SimpleString time) :
    Json.FitItems (depth + 2) (List.zipWith notificationDocument notifications times) := by
  have kindSimple : forall kind : DeadManNotificationKind, Json.SimpleString (text kind.value) := by
    intro kind
    cases kind <;> decide
  have stateSimple : forall state : DeadManState, Json.SimpleString (text state.value) := by
    intro state
    cases state <;> decide
  induction notifications generalizing times with
  | nil => trivial
  | cons notification rest inductionHypothesis =>
      cases times with
      | nil => trivial
      | cons time times =>
          refine ⟨⟨by decide, trivial, by decide, kindSimple _, by decide, ⟨by decide,
            stateSimple _, by decide, stateSimple _, by decide, simple time List.mem_cons_self,
            trivial⟩, trivial⟩, inductionHypothesis ?_⟩
          exact fun other member => simple other (List.mem_cons_of_mem time member)

theorem fits_statusDocument (depth : Nat) (f : StatusFields) {anchor : Option PyStr}
    {times : List PyStr} (anchorSimple : forall time, anchor = some time -> Json.SimpleString time)
    (timesSimple : forall time, time ∈ times -> Json.SimpleString time) :
    Json.Fits (depth + 4) (statusDocument f anchor times) := by
  have stateSimple : Json.SimpleString (text f.state.value) := by
    cases f.state <;> decide
  have anchorFits : Json.Fits (depth + 3) (timestampDocument anchor) := by
    cases anchor with
    | none => trivial
    | some time => exact anchorSimple time rfl
  have currentFits : Json.Fits (depth + 3) (currentDownDocument f.currentDown) := by
    cases f.currentDown with
    | none => trivial
    | some current => exact ⟨by decide, trivial, by decide, trivial, trivial⟩
  exact ⟨by decide, trivial, by decide, stateSimple, by decide, trivial, by decide, trivial,
    by decide, anchorFits, by decide, fits_notificationDocuments depth f.pendingNotifications
      timesSimple, by decide, trivial, by decide, currentFits, trivial⟩

/-! ## Encoding a representable snapshot -/

theorem encodeDatetime_eq_ok {value : DateTime} {time : PyStr} :
    encodeDatetime value = .ok time ↔
      exists wall, value.astimezoneUtc = .ok wall ∧ isoformat wall = time := by
  simp only [encodeDatetime, bind_eq_ok, Except.ok.injEq]

theorem encodeDatetime_total {value : DateTime} (representable : value.UtcRepresentable) :
    exists time, encodeDatetime value = .ok time := by
  rcases value.astimezoneUtc_total representable with ⟨wall, converted, _⟩
  exact ⟨isoformat wall, encodeDatetime_eq_ok.mpr ⟨wall, converted, rfl⟩⟩

/-- What is written for a datetime reads as the same instant in UTC. -/
theorem spells_of_encoded (reader : IsoReader) {value : DateTime} {time : PyStr}
    (encoded : encodeDatetime value = .ok time) : Spells reader time value.inUtc := by
  rcases encodeDatetime_eq_ok.mp encoded with ⟨wall, converted, rfl⟩
  rw [DateTime.inUtc_of_ok converted]
  exact reader.inverts wall

theorem simple_of_encoded {value : DateTime} {time : PyStr}
    (encoded : encodeDatetime value = .ok time) : Json.SimpleString time := by
  rcases encodeDatetime_eq_ok.mp encoded with ⟨wall, _, rfl⟩
  exact simple_isoformat wall

/-- Encoding looks at instants only. -/
theorem encodeDatetime_inUtc {value : DateTime} {time : PyStr}
    (encoded : encodeDatetime value = .ok time) : encodeDatetime value.inUtc = .ok time := by
  rcases encodeDatetime_eq_ok.mp encoded with ⟨wall, converted, rfl⟩
  rw [DateTime.inUtc_of_ok converted]
  exact encodeDatetime_eq_ok.mpr ⟨wall, DateTime.astimezoneUtc_utc wall, rfl⟩

def DeadManTransition.inUtc (t : DeadManTransition) : DeadManTransition :=
  { t with confirmedAt := t.confirmedAt.inUtc, aware := DateTime.isAware_inUtc t.aware }

def DeadManNotification.inUtc (n : DeadManNotification) : DeadManNotification :=
  { n with
    transition := n.transition.inUtc
    downPaired := n.downPaired
    recoveredPaired := n.recoveredPaired }

def StatusFields.inUtc (f : StatusFields) : StatusFields :=
  { f with
    stateChangedAt := f.stateChangedAt.map DateTime.inUtc
    pendingNotifications := f.pendingNotifications.map DeadManNotification.inUtc }

theorem DeadManNotification.content_inUtc (n : DeadManNotification) : n.inUtc.content = n.content := by
  have same : n.inUtc.confirmedAt.instant = n.confirmedAt.instant := DateTime.instant_inUtc _
  rw [content, same]
  rfl

theorem StatusFields.content_inUtc (f : StatusFields) : f.inUtc.content = f.content := by
  have instants : DateTime.instant ∘ DateTime.inUtc = DateTime.instant := by
    funext value
    exact DateTime.instant_inUtc value
  have contents : DeadManNotification.content ∘ DeadManNotification.inUtc =
      DeadManNotification.content := by
    funext n
    exact n.content_inUtc
  simp only [content, inUtc, Option.map_map, List.map_map, instants, contents]

section SameContent

variable {f g : StatusFields} (same : g.content = f.content)

include same

theorem length_of_content : g.pendingNotifications.length = f.pendingNotifications.length := by
  have pending := congrArg (fun content => content.pending.length) same
  simpa only [StatusFields.content, List.length_map] using pending

theorem ids_of_content :
    notificationIds g.pendingNotifications = notificationIds f.pendingNotifications := by
  have ids := congrArg (fun content => content.pending.map IntentContent.notificationId) same
  simp only [StatusFields.content, List.map_map] at ids
  exact ids

/-- Every intent has a counterpart with the same content. -/
theorem exists_of_content {n : DeadManNotification} (member : n ∈ g.pendingNotifications) :
    exists m, m ∈ f.pendingNotifications ∧ m.content = n.content := by
  have pending : g.content.pending = f.content.pending := congrArg StatusContent.pending same
  have present : n.content ∈ g.content.pending := List.mem_map.mpr ⟨n, member, rfl⟩
  rw [pending] at present
  exact List.mem_map.mp present

theorem anchor_of_content {anchor : DateTime} (found : g.stateChangedAt = some anchor) :
    exists other, f.stateChangedAt = some other ∧ other.instant = anchor.instant := by
  have anchors := congrArg StatusContent.stateChangedAt same
  simp only [StatusFields.content, found, Option.map_some] at anchors
  exact Option.map_eq_some_iff.mp anchors.symm

theorem anchor_none_of_content : g.stateChangedAt = none ↔ f.stateChangedAt = none := by
  have anchors := congrArg StatusContent.stateChangedAt same
  simp only [StatusFields.content] at anchors
  rw [<- Option.map_eq_none_iff, anchors, Option.map_eq_none_iff]

theorem grammar_of_content
    (grammar : forall n, n ∈ f.pendingNotifications.tail -> n.kind = .down) :
    forall n, n ∈ g.pendingNotifications.tail -> n.kind = .down := by
  intro n member
  have tails := congrArg (fun content => content.pending.tail) same
  simp only [StatusFields.content, <- List.map_tail] at tails
  have present : n.content ∈ g.pendingNotifications.tail.map DeadManNotification.content :=
    List.mem_map.mpr ⟨n, member, rfl⟩
  rw [tails] at present
  rcases List.mem_map.mp present with ⟨m, original, equal⟩
  have kinds : m.kind = n.kind := congrArg IntentContent.kind equal
  rw [<- kinds]
  exact grammar m original

theorem boundTail_of_content (bound : BoundTail f) : BoundTail g := by
  rcases bound with ⟨older, tail, shape, kind, anchor, anchored, dated⟩
  have pending : g.pendingNotifications.map DeadManNotification.content =
      f.pendingNotifications.map DeadManNotification.content := congrArg StatusContent.pending same
  rw [shape, List.map_append, List.map_singleton] at pending
  rcases List.map_eq_append_iff.mp pending with ⟨older', last, shape', _, lastContent⟩
  rcases List.map_eq_singleton_iff.mp lastContent with ⟨tail', rfl, tailContent⟩
  rcases anchor_of_content same.symm anchored with ⟨anchor', anchored', instants⟩
  have kinds : tail'.kind = tail.kind := congrArg IntentContent.kind tailContent
  have times : tail'.confirmedAt.instant = tail.confirmedAt.instant :=
    congrArg IntentContent.instant tailContent
  exact ⟨older', tail', shape', kinds.trans kind, anchor', anchored', by rw [times, dated, instants]⟩

/-- Whether a snapshot is admissible depends on its content, once its anchor is
aware. -/
theorem Admissible.of_content (admissible : Admissible f)
    (aware : forall anchor, g.stateChangedAt = some anchor -> anchor.isAware = true) :
    Admissible g := by
  have state : g.state = f.state := congrArg StatusContent.state same
  have failures : g.consecutiveFailures = f.consecutiveFailures :=
    congrArg StatusContent.consecutiveFailures same
  have successes : g.consecutiveSuccesses = f.consecutiveSuccesses :=
    congrArg StatusContent.consecutiveSuccesses same
  have next : g.nextNotificationId = f.nextNotificationId :=
    congrArg StatusContent.nextNotificationId same
  have current : g.currentDown = f.currentDown := congrArg StatusContent.currentDown same
  have length := length_of_content same
  have empty : g.pendingNotifications = [] ↔ f.pendingNotifications = [] := by
    rw [<- List.length_eq_zero_iff, length, List.length_eq_zero_iff]
  constructor
  · have streaks := admissible.streaks
    unfold StreaksRest at streaks ⊢
    rwa [state, failures, successes]
  · rw [ids_of_content same, next, length]
    exact admissible.ids
  · rw [next]
    exact admissible.nextPositive
  · exact grammar_of_content same admissible.grammar
  · have times := admissible.times
    unfold LedgerTimes at times ⊢
    cases anchored : g.stateChangedAt with
    | none =>
        rw [(anchor_none_of_content same).mp anchored] at times
        exact state.trans times
    | some anchor =>
        rcases anchor_of_content same anchored with ⟨other, found, instants⟩
        rw [found] at times
        refine ⟨aware anchor anchored, fun n member => ?_⟩
        rcases exists_of_content same member with ⟨m, original, equal⟩
        have dated : m.confirmedAt.instant = n.confirmedAt.instant :=
          congrArg IntentContent.instant equal
        have before := times.2 m original
        omega
  · intro unknown
    rcases admissible.unknownInitial (state ▸ unknown) with ⟨unanchored, drained, first⟩
    exact ⟨(anchor_none_of_content same).mpr unanchored, empty.mpr drained, next.trans first⟩
  · have binding := admissible.binding
    unfold OutageBinding at binding ⊢
    rw [current]
    cases bound : f.currentDown with
    | none =>
        rw [bound] at binding
        exact state ▸ binding
    | some outage =>
        rw [bound] at binding
        refine ⟨state.trans binding.1, binding.2.1.trans (by rw [next]), ?_⟩
        have rest := binding.2.2
        split at rest
        · rename_i acknowledged
          rw [if_pos acknowledged]
          exact empty.mpr rest
        · rename_i unacknowledged
          rw [if_neg unacknowledged]
          exact boundTail_of_content same rest

end SameContent

/-- The same snapshot with its timestamps given in UTC. -/
def DeadManStatus.inUtc (s : DeadManStatus) : DeadManStatus where
  toStatusFields := s.toStatusFields.inUtc
  checked := by
    apply (StatusFields.postInit_eq_ok _).mpr
    apply Admissible.of_content s.toStatusFields.content_inUtc s.admissible
    intro anchor found
    rcases Option.map_eq_some_iff.mp found with ⟨original, anchored, rfl⟩
    exact DateTime.isAware_inUtc (s.anchor_aware original anchored)

theorem DeadManStatus.content_inUtc (s : DeadManStatus) :
    s.inUtc.toStatusFields.content = s.toStatusFields.content :=
  s.toStatusFields.content_inUtc

/-! ## Encoding a snapshot -/

/-- What the encoder wrote for the anchor. -/
theorem encodeAnchor_spec {value : Option DateTime} {anchor : Option PyStr}
    (encoded : encodeAnchor value = .ok anchor) :
    (forall reader, AnchorSpelled reader anchor (value.map DateTime.inUtc)) ∧
      (forall time, anchor = some time -> Json.SimpleString time) ∧
      encodeAnchor (value.map DateTime.inUtc) = .ok anchor := by
  cases value with
  | none =>
      cases encoded
      refine ⟨fun _ => trivial, ?_, rfl⟩
      intro _ impossible
      cases impossible
  | some value =>
      rcases bind_eq_ok.mp encoded with ⟨time, written, same⟩
      cases same
      refine ⟨fun reader => spells_of_encoded reader written, ?_, ?_⟩
      · intro _ found
        cases found
        exact simple_of_encoded written
      · exact bind_eq_ok.mpr ⟨time, encodeDatetime_inUtc written, rfl⟩

/-- What the encoder wrote for the pending intents. -/
theorem encodeTimes_spec {notifications : List DeadManNotification} {times : List PyStr}
    (encoded : encodeTimes notifications = .ok times) :
    (forall reader, TimesSpelled reader times (notifications.map DeadManNotification.inUtc)) ∧
      (forall time, time ∈ times -> Json.SimpleString time) ∧
      encodeTimes (notifications.map DeadManNotification.inUtc) = .ok times := by
  induction notifications generalizing times with
  | nil =>
      cases encoded
      refine ⟨fun _ => .nil, ?_, rfl⟩
      intro _ impossible
      cases impossible
  | cons notification rest inductionHypothesis =>
      rcases bind_eq_ok.mp encoded with ⟨time, written, more⟩
      rcases bind_eq_ok.mp more with ⟨others, writtenRest, same⟩
      cases same
      rcases inductionHypothesis writtenRest with ⟨spelled, simple, again⟩
      refine ⟨fun reader => .cons (spells_of_encoded reader written) (spelled reader), ?_, ?_⟩
      · intro other member
        rcases List.mem_cons.mp member with first | later
        · rw [first]
          exact simple_of_encoded written
        · exact simple other later
      · exact bind_eq_ok.mpr ⟨time, encodeDatetime_inUtc written, bind_eq_ok.mpr ⟨others, again, rfl⟩⟩

theorem encodeDocument_eq_ok {s : DeadManStatus} {document : Json} :
    encodeDocument s = .ok document ↔ exists anchor times,
      encodeAnchor s.stateChangedAt = .ok anchor ∧ encodeTimes s.pendingNotifications = .ok times ∧
        statusDocument s.toStatusFields anchor times = document := by
  simp only [encodeDocument, bind_eq_ok, Except.ok.injEq]
  constructor
  · rintro ⟨anchor, first, times, second, same⟩
    exact ⟨anchor, times, first, second, same⟩
  · rintro ⟨anchor, times, first, second, same⟩
    exact ⟨anchor, first, times, second, same⟩

theorem encode_eq_ok {s : DeadManStatus} {payload : PyStr} :
    encodeDeadmanStatus s = .ok payload ↔
      exists document, encodeDocument s = .ok document ∧ dumpsSorted document = payload := by
  simp only [encodeDeadmanStatus, bind_eq_ok, Except.ok.injEq]

/-- A document shows the offsets of no timestamp but through their texts. -/
theorem statusDocument_inUtc (f : StatusFields) (anchor : Option PyStr) (times : List PyStr) :
    statusDocument f.inUtc anchor times = statusDocument f anchor times := by
  have pending : forall (notifications : List DeadManNotification) (times : List PyStr),
      List.zipWith notificationDocument (notifications.map DeadManNotification.inUtc) times =
        List.zipWith notificationDocument notifications times := by
    intro notifications times
    rw [List.zipWith_map_left]
    rfl
  simp only [statusDocument, StatusFields.inUtc, pending]

theorem encodeDocument_inUtc {s : DeadManStatus} {document : Json}
    (encoded : encodeDocument s = .ok document) : encodeDocument s.inUtc = .ok document := by
  rcases encodeDocument_eq_ok.mp encoded with ⟨anchor, times, first, second, rfl⟩
  exact encodeDocument_eq_ok.mpr ⟨anchor, times, (encodeAnchor_spec first).2.2,
    (encodeTimes_spec second).2.2, statusDocument_inUtc _ _ _⟩

theorem encode_inUtc {s : DeadManStatus} {payload : PyStr}
    (encoded : encodeDeadmanStatus s = .ok payload) : encodeDeadmanStatus s.inUtc = .ok payload := by
  rcases encode_eq_ok.mp encoded with ⟨document, built, rfl⟩
  exact encode_eq_ok.mpr ⟨document, encodeDocument_inUtc built, rfl⟩

/-- Decoding what was encoded gives the same snapshot, dated in UTC. -/
theorem decode_encode (scanner : JsonScanner) (reader : IsoReader) {s : DeadManStatus}
    {payload : PyStr} (encoded : encodeDeadmanStatus s = .ok payload) :
    decodeDeadmanStatus scanner reader payload = .ok s.inUtc := by
  rcases encode_eq_ok.mp encoded with ⟨document, built, rfl⟩
  rcases encodeDocument_eq_ok.mp built with ⟨anchor, times, first, second, rfl⟩
  rcases encodeAnchor_spec first with ⟨anchorRead, anchorSimple, _⟩
  rcases encodeTimes_spec second with ⟨timesRead, timesSimple, _⟩
  have strict := strict_sortKeys (strict_statusDocument s.toStatusFields anchor times)
  have fits := Json.fits_sortKeys
    (fits_statusDocument 896 s.toStatusFields anchorSimple timesSimple)
  have loaded := loads_render scanner deadManHooks fits strict
  have spelled := statusSpelled_sorted (f := s.inUtc.toStatusFields) (anchorRead reader)
    (timesRead reader)
  rw [show statusDocument s.inUtc.toStatusFields anchor times =
    statusDocument s.toStatusFields anchor times from statusDocument_inUtc _ _ _] at spelled
  rw [decodeDeadmanStatus, dumpsSorted, loaded]
  exact (decodeDocument_eq_ok strict).mpr ⟨anchor, times, spelled⟩

theorem encodeAnchor_total {value : Option DateTime}
    (representable : forall anchor, value = some anchor -> anchor.UtcRepresentable) :
    exists anchor, encodeAnchor value = .ok anchor := by
  cases value with
  | none => exact ⟨none, rfl⟩
  | some value =>
      rcases encodeDatetime_total (representable value rfl) with ⟨time, written⟩
      exact ⟨some time, bind_eq_ok.mpr ⟨time, written, rfl⟩⟩

theorem encodeTimes_total {notifications : List DeadManNotification}
    (representable : forall n, n ∈ notifications -> n.confirmedAt.UtcRepresentable) :
    exists times, encodeTimes notifications = .ok times := by
  induction notifications with
  | nil => exact ⟨[], rfl⟩
  | cons notification rest inductionHypothesis =>
      rcases encodeDatetime_total (representable notification List.mem_cons_self) with
        ⟨time, written⟩
      rcases inductionHypothesis fun n member =>
        representable n (List.mem_cons_of_mem notification member) with ⟨times, others⟩
      exact ⟨time :: times, bind_eq_ok.mpr ⟨time, written, bind_eq_ok.mpr ⟨times, others, rfl⟩⟩⟩

theorem encodeTimes_representable {notifications : List DeadManNotification} {times : List PyStr}
    (encoded : encodeTimes notifications = .ok times) :
    forall n, n ∈ notifications -> n.confirmedAt.UtcRepresentable := by
  induction notifications generalizing times with
  | nil =>
      intro n member
      cases member
  | cons notification rest inductionHypothesis =>
      rcases bind_eq_ok.mp encoded with ⟨time, written, more⟩
      rcases bind_eq_ok.mp more with ⟨others, writtenRest, _⟩
      rcases encodeDatetime_eq_ok.mp written with ⟨wall, converted, _⟩
      intro n member
      rcases List.mem_cons.mp member with rfl | later
      · exact DateTime.utcRepresentable_of_ok converted
      · exact inductionHypothesis writtenRest n later

theorem StatusFields.utcRepresentable_iff (f : StatusFields) :
    f.UtcRepresentable ↔
      (forall anchor, f.stateChangedAt = some anchor -> anchor.UtcRepresentable) ∧
        forall n, n ∈ f.pendingNotifications -> n.confirmedAt.UtcRepresentable := by
  simp only [UtcRepresentable, timestamps, List.mem_append, Option.mem_toList, List.mem_map]
  constructor
  · intro all
    exact ⟨fun anchor found => all anchor (Or.inl found),
      fun n member => all _ (Or.inr ⟨n, member, rfl⟩)⟩
  · rintro ⟨anchor, pending⟩ value (found | ⟨n, member, rfl⟩)
    · exact anchor value found
    · exact pending n member

/-- The encoder succeeds exactly on the representable snapshots. -/
theorem encodeDocument_total_iff (s : DeadManStatus) :
    (exists document, encodeDocument s = .ok document) ↔ s.toStatusFields.UtcRepresentable := by
  rw [StatusFields.utcRepresentable_iff]
  constructor
  · rintro ⟨document, encoded⟩
    rcases encodeDocument_eq_ok.mp encoded with ⟨anchor, times, first, second, _⟩
    refine ⟨?_, encodeTimes_representable second⟩
    intro value found
    rw [found] at first
    rcases bind_eq_ok.mp first with ⟨time, written, _⟩
    rcases encodeDatetime_eq_ok.mp written with ⟨wall, converted, _⟩
    exact DateTime.utcRepresentable_of_ok converted
  · rintro ⟨anchorRepresentable, pendingRepresentable⟩
    rcases encodeAnchor_total anchorRepresentable with ⟨anchor, first⟩
    rcases encodeTimes_total pendingRepresentable with ⟨times, second⟩
    exact ⟨_, encodeDocument_eq_ok.mpr ⟨anchor, times, first, second, rfl⟩⟩

theorem encode_total {s : DeadManStatus} (representable : s.toStatusFields.UtcRepresentable) :
    exists payload, encodeDeadmanStatus s = .ok payload := by
  rcases (encodeDocument_total_iff s).mpr representable with ⟨document, encoded⟩
  exact ⟨_, encode_eq_ok.mpr ⟨document, encoded, rfl⟩⟩

theorem DeadManStatus.inUtc_of_representable {s : DeadManStatus}
    (representable : s.toStatusFields.UtcRepresentable) : s.inUtc.toStatusFields.InUtc := by
  have given : forall value : DateTime, value.UtcRepresentable ->
      exists wall, value.inUtc = DateTime.utc wall := by
    intro value possible
    rcases value.astimezoneUtc_total possible with ⟨wall, converted, _⟩
    exact ⟨wall, DateTime.inUtc_of_ok converted⟩
  rw [StatusFields.utcRepresentable_iff] at representable
  intro value member
  rcases List.mem_append.mp member with anchored | pending
  · rcases Option.map_eq_some_iff.mp (Option.mem_toList.mp anchored) with ⟨original, found, rfl⟩
    exact given original (representable.1 original found)
  · rcases List.mem_map.mp pending with ⟨n, present, rfl⟩
    rcases List.mem_map.mp present with ⟨original, found, rfl⟩
    exact given _ (representable.2 original found)

end DeadMan
end HermesSentinel
