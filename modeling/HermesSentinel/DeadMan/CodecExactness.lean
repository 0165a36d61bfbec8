import HermesSentinel.DeadMan.Codec

namespace HermesSentinel
namespace DeadMan

open Python
open Foundation

/-!
# The decoder accepts the encoder's documents and no others

For every kind of value there is a relation between it and the trees that
spell it: an object in any order of its members, with exactly the values the
encoder writes, except that a timestamp may be any text that reads as it.  The
decoder succeeds on a strict tree exactly when the tree spells the result.
From this follow both directions of the codec: the encoder's own document is a
spelling, and every spelling is, sorted, the document of its status.
-/

theorem item_eq_ok {members : List (Text × Json)} {key : String} {value : Json} :
    item members key = .ok value ↔ members.lookup (text key) = some value := by
  unfold item
  cases members.lookup (text key) with
  | none => simp
  | some found => simp

theorem requireExactKeys_eq_ok {name : String} {members : List (Text × Json)}
    {fields : List Text} :
    requireExactKeys name members fields = .ok () ↔
      Json.keys members ⊆ fields ∧ fields ⊆ Json.keys members := by
  unfold requireExactKeys
  split <;> simp [decodeFailure, *]

/-- A strict object with exactly the named keys lists the named members in
some order. -/
theorem perm_of_exactKeys {name : String} {members named : List (Text × Json)}
    (strict : Strict (.object members)) (distinct : (Json.keys named).Nodup)
    (exact : requireExactKeys name members (Json.keys named) = .ok ())
    (found : forall key value, (key, value) ∈ named -> members.lookup key = some value) :
    members.Perm named := by
  rw [Strict] at strict
  exact Json.perm_of_lookups strict.1 distinct (requireExactKeys_eq_ok.mp exact).1 found

theorem exactKeys_of_perm {members named : List (Text × Json)} (perm : members.Perm named)
    (name : String) : requireExactKeys name members (Json.keys named) = .ok () := by
  have same := Json.keys_perm perm
  exact requireExactKeys_eq_ok.mpr ⟨same.subset, same.symm.subset⟩

theorem item_of_perm {members named : List (Text × Json)} (perm : members.Perm named)
    (distinct : (Json.keys named).Nodup) (key : String) (value : Json)
    (present : (text key, value) ∈ named) : item members key = .ok value :=
  item_eq_ok.mpr (Json.lookup_of_perm perm distinct _ _ present)

theorem wrapInvalid_eq_ok {α : Type} {what : String} {call : Fallible α} {value : α} :
    wrapInvalid what call = .ok value ↔ call = .ok value := by
  cases call with
  | ok result => rfl
  | error e =>
      simp only [wrapInvalid]
      split
      · simp
      · split <;> simp [decodeFailure]

theorem decodeStateValue_eq_ok {name : String} {v : Json} {state : DeadManState} :
    decodeStateValue name v = .ok state ↔ v = .str (text state.value) := by
  cases v with
  | str value =>
      simp only [decodeStateValue, Json.str.injEq]
      constructor
      · intro decoded
        split at decoded
        · rename_i found search
          cases decoded
          have named := List.find?_some search
          rw [decide_eq_true_eq] at named
          exact named.symm
        · cases decoded
      · rintro rfl
        cases state <;> rfl
  | _ => simp [decodeStateValue, decodeFailure]

theorem decodeNotificationKind_eq_ok {name : String} {v : Json} {kind : DeadManNotificationKind} :
    decodeNotificationKind name v = .ok kind ↔ v = .str (text kind.value) := by
  cases v with
  | str value =>
      simp only [decodeNotificationKind, Json.str.injEq]
      constructor
      · intro decoded
        split at decoded
        · rename_i found search
          cases decoded
          have named := List.find?_some search
          rw [decide_eq_true_eq] at named
          exact named.symm
        · cases decoded
      · rintro rfl
        cases kind <;> rfl
  | _ => simp [decodeNotificationKind, decodeFailure]

theorem decodeInteger_eq_ok {least : Int} {name : String} {v : Json} {value : Int} :
    decodeInteger least name v = .ok value ↔ v = .int value ∧ least ≤ value := by
  cases v with
  | int found =>
      simp only [decodeInteger, Json.int.injEq]
      split
      · rename_i below
        constructor
        · intro impossible
          exact absurd impossible (raise_ne_ok _ _ _)
        · rintro ⟨rfl, enough⟩
          omega
      · rename_i enough
        rw [Except.ok.injEq]
        constructor
        · rintro rfl
          exact ⟨rfl, by omega⟩
        · exact fun same => same.1
  | _ => simp [decodeInteger, decodeFailure]

theorem decodeBool_eq_ok {name : String} {v : Json} {value : Bool} :
    decodeBool name v = .ok value ↔ v = .bool value := by
  cases v <;> simp [decodeBool, decodeFailure]

theorem checkVersion_eq_ok {v : Json} {passed : Unit} :
    checkVersion v = .ok passed ↔ v = .int schemaVersion := by
  cases v with
  | int value =>
      simp only [checkVersion, Json.int.injEq]
      split <;> simp [decodeFailure, *]
  | _ => simp [checkVersion, decodeFailure]

/-- The text reads as the datetime. -/
def Spells (reader : IsoReader) (time : PyStr) (value : DateTime) : Prop :=
  reader.fromisoformat time = some value

def AnchorSpelled (reader : IsoReader) : Option PyStr -> Option DateTime -> Prop
  | none, none => True
  | some time, some value => Spells reader time value
  | _, _ => False

theorem decodeDatetime_eq_ok {reader : IsoReader} {name : String} {v : Json} {value : DateTime} :
    decodeDatetime reader name v = .ok value ↔
      exists time, v = .str time ∧ Spells reader time value ∧ value.isAware = true := by
  cases v with
  | str time =>
      simp only [decodeDatetime, Json.str.injEq, Spells]
      cases read : reader.fromisoformat time with
      | none => simp [decodeFailure, read]
      | some parsed =>
          by_cases aware : parsed.isAware = true
          · simp only [if_pos aware, Except.ok.injEq]
            constructor
            · rintro rfl
              exact ⟨time, rfl, read, aware⟩
            · rintro ⟨_, rfl, same, _⟩
              rw [read] at same
              exact Option.some.inj same
          · simp only [if_neg aware]
            constructor
            · intro impossible
              exact absurd impossible (raise_ne_ok _ _ _)
            · rintro ⟨_, rfl, same, other⟩
              rw [read] at same
              cases same
              exact absurd other aware
  | _ => simp [decodeDatetime, decodeFailure]

theorem decodeOptionalDatetime_eq_ok {reader : IsoReader} {name : String} {v : Json}
    {value : Option DateTime} :
    decodeOptionalDatetime reader name v = .ok value ↔
      exists time, v = timestampDocument time ∧ AnchorSpelled reader time value ∧
        forall aware, value = some aware -> aware.isAware = true := by
  by_cases absent : v = .null
  · subst absent
    simp only [decodeOptionalDatetime, Except.ok.injEq]
    constructor
    · rintro rfl
      exact ⟨none, rfl, trivial, fun _ impossible => by cases impossible⟩
    · rintro ⟨time, document, spelled, _⟩
      cases time with
      | none =>
          cases value with
          | none => rfl
          | some _ => exact spelled.elim
      | some _ => cases document
  · have unfolded : decodeOptionalDatetime reader name v =
        (decodeDatetime reader name v >>= fun parsed => .ok (some parsed)) := by
      cases v with
      | null => exact absurd rfl absent
      | _ => rfl
    rw [unfolded, bind_eq_ok]
    simp only [decodeDatetime_eq_ok, Except.ok.injEq]
    constructor
    · rintro ⟨parsed, ⟨time, rfl, spelled, aware⟩, rfl⟩
      exact ⟨some time, rfl, spelled, fun _ same => Option.some.inj same ▸ aware⟩
    · rintro ⟨time, rfl, spelled, aware⟩
      cases time with
      | none => exact absurd rfl absent
      | some time =>
          cases value with
          | none => exact spelled.elim
          | some value => exact ⟨value, ⟨time, rfl, spelled, aware value rfl⟩, rfl⟩

/-! ## Transitions and notifications -/

/-- The tree is an object spelling the transition, with this text as its time. -/
def TransitionSpelled (reader : IsoReader) (transition : DeadManTransition) (time : PyStr)
    (v : Json) : Prop :=
  exists members, v = .object members ∧
    members.Perm [(text "from_state", .str (text transition.fromState.value)),
      (text "to_state", .str (text transition.toState.value)), (text "at", .str time)] ∧
    Spells reader time transition.confirmedAt

theorem decodeTransition_eq_ok {reader : IsoReader} (name : String) {v : Json}
    {transition : DeadManTransition} (strict : Strict v) :
    decodeTransition reader name v = .ok transition ↔
      exists time, TransitionSpelled reader transition time v := by
  have distinct : transitionFields.Nodup := by decide
  constructor
  · intro decoded
    cases v with
    | object members =>
        simp only [decodeTransition, bind_eq_ok, wrapInvalid_eq_ok, item_eq_ok,
          decodeStateValue_eq_ok, decodeDatetime_eq_ok] at decoded
        rcases decoded with ⟨_, exact, _, fromFound, _, rfl, _, toFound, _, rfl, _, atFound, _,
          ⟨time, rfl, spelled, _⟩, made⟩
        rcases DeadManTransition.make_eq_ok made with ⟨rfl, rfl, rfl⟩
        refine ⟨time, members, rfl, perm_of_exactKeys strict distinct exact ?_, spelled⟩
        intro key value member
        simp only [List.mem_cons, List.not_mem_nil, or_false, Prod.mk.injEq] at member
        rcases member with ⟨rfl, rfl⟩ | ⟨rfl, rfl⟩ | ⟨rfl, rfl⟩
        · exact fromFound
        · exact toFound
        · exact atFound
    | _ => cases decoded
  · rintro ⟨time, members, rfl, perm, spelled⟩
    have found := item_of_perm perm distinct
    simp only [decodeTransition, bind_eq_ok, wrapInvalid_eq_ok, decodeStateValue_eq_ok,
      decodeDatetime_eq_ok]
    refine ⟨(), exactKeys_of_perm perm _, _, found "from_state" _ ?_, _, rfl, _,
      found "to_state" _ ?_, _, rfl, _, found "at" _ ?_, _,
      ⟨time, rfl, spelled, transition.aware⟩, DeadManTransition.make_ok _⟩
    all_goals simp

def NotificationSpelled (reader : IsoReader) (notification : DeadManNotification) (time : PyStr)
    (v : Json) : Prop :=
  exists members transition, v = .object members ∧
    members.Perm [(text "notification_id", .int notification.notificationId),
      (text "kind", .str (text notification.kind.value)), (text "transition", transition)] ∧
    TransitionSpelled reader notification.transition time transition

theorem decodeNotification_eq_ok {reader : IsoReader} {name : String} {v : Json}
    {notification : DeadManNotification} (strict : Strict v) :
    decodeNotification reader name v = .ok notification ↔
      exists time, NotificationSpelled reader notification time v := by
  have distinct : notificationFields.Nodup := by decide
  constructor
  · intro decoded
    cases v with
    | object members =>
        simp only [decodeNotification, bind_eq_ok, wrapInvalid_eq_ok, item_eq_ok,
          decodeNotificationKind_eq_ok, decodeNotificationId, decodeInteger_eq_ok] at decoded
        rcases decoded with ⟨_, exact, _, kindFound, _, rfl, _, transitionFound, _, decoded, _,
          idFound, _, ⟨rfl, _⟩, made⟩
        rcases (decodeTransition_eq_ok _ (strict.of_lookup transitionFound)).mp decoded with
          ⟨time, spelled⟩
        rcases DeadManNotification.make_eq_ok made with ⟨rfl, rfl, rfl⟩
        refine ⟨time, members, _, rfl, perm_of_exactKeys strict distinct exact ?_, spelled⟩
        intro key value member
        simp only [List.mem_cons, List.not_mem_nil, or_false, Prod.mk.injEq] at member
        rcases member with ⟨rfl, rfl⟩ | ⟨rfl, rfl⟩ | ⟨rfl, rfl⟩
        · exact idFound
        · exact kindFound
        · exact transitionFound
    | _ => cases decoded
  · rintro ⟨time, members, transition, rfl, perm, spelled⟩
    have found := item_of_perm perm distinct
    have nested := found "transition" transition (by simp)
    have decoded := (decodeTransition_eq_ok s!"{name}.transition"
      (strict.of_lookup (item_eq_ok.mp nested))).mpr ⟨time, spelled⟩
    simp only [decodeNotification, bind_eq_ok, wrapInvalid_eq_ok, decodeNotificationKind_eq_ok,
      decodeNotificationId, decodeInteger_eq_ok]
    refine ⟨(), exactKeys_of_perm perm _, _, found "kind" _ ?_, _, rfl, _, nested, _, decoded, _,
      found "notification_id" _ ?_, _, ⟨rfl, notification.idPositive⟩,
      DeadManNotification.make_ok _⟩
    all_goals simp

/-- The elements spell the notifications, with these texts as their times. -/
def NotificationsSpelled (reader : IsoReader) :
    List DeadManNotification -> List PyStr -> List Json -> Prop
  | [], [], [] => True
  | notification :: rest, time :: times, element :: elements =>
      NotificationSpelled reader notification time element ∧
        NotificationsSpelled reader rest times elements
  | _, _, _ => False

theorem decodeElements_eq_ok {reader : IsoReader} {name : String} {index : Nat}
    {elements : List Json} {notifications : List DeadManNotification}
    (strict : StrictItems elements) :
    decodeElements reader name index elements = .ok notifications ↔
      exists times, NotificationsSpelled reader notifications times elements := by
  induction elements generalizing index notifications with
  | nil =>
      rw [decodeElements, Except.ok.injEq]
      constructor
      · rintro rfl
        exact ⟨[], trivial⟩
      · rintro ⟨times, spelled⟩
        cases notifications with
        | nil => rfl
        | cons _ _ => cases times <;> exact spelled.elim
  | cons element elements inductionHypothesis =>
      simp only [decodeElements, bind_eq_ok, decodeNotification_eq_ok strict.1,
        inductionHypothesis strict.2, Except.ok.injEq]
      constructor
      · rintro ⟨notification, ⟨time, spelled⟩, rest, ⟨times, others⟩, rfl⟩
        exact ⟨time :: times, spelled, others⟩
      · rintro ⟨times, spelled⟩
        cases notifications with
        | nil => cases times <;> exact spelled.elim
        | cons notification rest =>
            cases times with
            | nil => exact spelled.elim
            | cons time times =>
                exact ⟨notification, ⟨time, spelled.1⟩, rest, ⟨times, spelled.2⟩, rfl⟩

theorem decodeNotifications_eq_ok {reader : IsoReader} (name : String) {v : Json}
    {notifications : List DeadManNotification} (strict : Strict v) :
    decodeNotifications reader name v = .ok notifications ↔
      exists times elements, v = .array elements ∧
        NotificationsSpelled reader notifications times elements := by
  cases v with
  | array elements =>
      rw [Strict] at strict
      simp only [decodeNotifications, decodeElements_eq_ok strict, Json.array.injEq]
      constructor
      · rintro ⟨times, spelled⟩
        exact ⟨times, elements, rfl, spelled⟩
      · rintro ⟨times, _, rfl, spelled⟩
        exact ⟨times, spelled⟩
  | _ => simp [decodeNotifications, decodeFailure]

def CurrentDownSpelled (v : Json) : Option DeadManCurrentDown -> Prop
  | none => v = .null
  | some current => exists members, v = .object members ∧
      members.Perm [(text "notification_id", .int current.notificationId),
        (text "acknowledged", .bool current.acknowledged)]

theorem decodeCurrentDown_eq_ok (name : String) {v : Json} {current : Option DeadManCurrentDown}
    (strict : Strict v) :
    decodeCurrentDown name v = .ok current ↔ CurrentDownSpelled v current := by
  have distinct : currentDownFields.Nodup := by decide
  cases current with
  | none =>
      simp only [CurrentDownSpelled]
      cases v with
      | null => simp [decodeCurrentDown]
      | object members =>
          simp [decodeCurrentDown, bind_eq_ok, wrapInvalid_eq_ok]
      | _ => simp [decodeCurrentDown, decodeFailure]
  | some current =>
      constructor
      · intro decoded
        cases v with
        | object members =>
            simp only [decodeCurrentDown, bind_eq_ok, wrapInvalid_eq_ok, item_eq_ok,
              decodeNotificationId, decodeInteger_eq_ok, decodeBool_eq_ok, Except.ok.injEq,
              Option.some.injEq] at decoded
            rcases decoded with ⟨_, exact, _, idFound, _, ⟨rfl, _⟩, _, flagFound, _, rfl, _, made,
              rfl⟩
            rcases DeadManCurrentDown.make_eq_ok made with ⟨rfl, rfl⟩
            refine ⟨members, rfl, perm_of_exactKeys strict distinct exact ?_⟩
            intro key value member
            simp only [List.mem_cons, List.not_mem_nil, or_false, Prod.mk.injEq] at member
            rcases member with ⟨rfl, rfl⟩ | ⟨rfl, rfl⟩
            · exact idFound
            · exact flagFound
        | null => cases decoded
        | _ => cases decoded
      · rintro ⟨members, rfl, perm⟩
        have found := item_of_perm perm distinct
        simp only [decodeCurrentDown, bind_eq_ok, wrapInvalid_eq_ok, decodeNotificationId,
          decodeInteger_eq_ok, decodeBool_eq_ok, Except.ok.injEq, Option.some.injEq]
        refine ⟨(), exactKeys_of_perm perm _, _, found "notification_id" _ ?_, _,
          ⟨rfl, current.idPositive⟩, _, found "acknowledged" _ ?_, _, rfl, _,
          DeadManCurrentDown.make_ok _, rfl⟩
        all_goals simp

/-- The tree spells the snapshot, with these texts as its timestamps. -/
def StatusSpelled (reader : IsoReader) (f : StatusFields) (anchor : Option PyStr)
    (times : List PyStr) (v : Json) : Prop :=
  exists members elements current, v = .object members ∧
    members.Perm [(text "schema_version", .int schemaVersion),
      (text "state", .str (text f.state.value)),
      (text "consecutive_failures", .int f.consecutiveFailures),
      (text "consecutive_successes", .int f.consecutiveSuccesses),
      (text "state_changed_at", timestampDocument anchor),
      (text "pending_notifications", .array elements),
      (text "next_notification_id", .int f.nextNotificationId), (text "current_down", current)] ∧
    AnchorSpelled reader anchor f.stateChangedAt ∧
    NotificationsSpelled reader f.pendingNotifications times elements ∧
    CurrentDownSpelled current f.currentDown

theorem DeadManStatus.counters_nonneg (s : DeadManStatus) :
    0 ≤ s.consecutiveFailures ∧ 0 ≤ s.consecutiveSuccesses := by
  have streaks := s.admissible.streaks
  unfold StreaksRest at streaks
  split at streaks <;> omega

theorem DeadManStatus.anchor_aware (s : DeadManStatus) :
    forall anchor, s.stateChangedAt = some anchor -> anchor.isAware = true := by
  intro anchor found
  have times := s.admissible.times
  rw [LedgerTimes, found] at times
  exact times.1

/-- The decoder returns exactly the statuses that a strict tree spells. -/
theorem decodeDocument_eq_ok {reader : IsoReader} {v : Json} {s : DeadManStatus}
    (strict : Strict v) :
    decodeDocument reader v = .ok s ↔
      exists anchor times, StatusSpelled reader s.toStatusFields anchor times v := by
  have distinct : stateFields.Nodup := by decide
  constructor
  · intro decoded
    cases v with
    | object members =>
        simp only [decodeDocument, bind_eq_ok, wrapInvalid_eq_ok, item_eq_ok, checkVersion_eq_ok,
          decodeStateValue_eq_ok, decodeCounter, decodeNotificationId, decodeInteger_eq_ok,
          decodeOptionalDatetime_eq_ok] at decoded
        rcases decoded with ⟨_, exact, _, versionFound, _, rfl, _, stateFound, _, rfl, _,
          failuresFound, _, ⟨rfl, _⟩, _, successesFound, _, ⟨rfl, _⟩, _, anchorFound, _,
          ⟨anchor, rfl, anchorSpelled, _⟩, _, pendingFound, _, pendingDecoded, _, nextFound, _,
          ⟨rfl, _⟩, _, currentFound, _, currentDecoded, made⟩
        rcases (decodeNotifications_eq_ok _ (strict.of_lookup pendingFound)).mp pendingDecoded with
          ⟨times, elements, rfl, pendingSpelled⟩
        have currentSpelled :=
          (decodeCurrentDown_eq_ok _ (strict.of_lookup currentFound)).mp currentDecoded
        rw [DeadManStatus.make_eq_ok.mp made]
        refine ⟨anchor, times, members, elements, _, rfl,
          perm_of_exactKeys strict distinct exact ?_, anchorSpelled, pendingSpelled,
          currentSpelled⟩
        intro key value member
        simp only [List.mem_cons, List.not_mem_nil, or_false, Prod.mk.injEq] at member
        rcases member with ⟨rfl, rfl⟩ | ⟨rfl, rfl⟩ | ⟨rfl, rfl⟩ | ⟨rfl, rfl⟩ | ⟨rfl, rfl⟩ |
          ⟨rfl, rfl⟩ | ⟨rfl, rfl⟩ | ⟨rfl, rfl⟩
        · exact versionFound
        · exact stateFound
        · exact failuresFound
        · exact successesFound
        · exact anchorFound
        · exact pendingFound
        · exact nextFound
        · exact currentFound
    | _ => cases decoded
  · rintro ⟨anchor, times, members, elements, current, rfl, perm, anchorSpelled, pendingSpelled,
      currentSpelled⟩
    have found := item_of_perm perm distinct
    have pendingFound := found "pending_notifications" (.array elements) (by simp)
    have pendingDecoded := (decodeNotifications_eq_ok "pending_notifications"
      (strict.of_lookup (item_eq_ok.mp pendingFound))).mpr ⟨times, elements, rfl, pendingSpelled⟩
    have currentFound := found "current_down" current (by simp)
    have currentDecoded := (decodeCurrentDown_eq_ok "current_down"
      (strict.of_lookup (item_eq_ok.mp currentFound))).mpr currentSpelled
    have counters := s.counters_nonneg
    simp only [decodeDocument, bind_eq_ok, wrapInvalid_eq_ok, checkVersion_eq_ok,
      decodeStateValue_eq_ok, decodeCounter, decodeNotificationId, decodeInteger_eq_ok,
      decodeOptionalDatetime_eq_ok]
    refine ⟨(), exactKeys_of_perm perm _, _, found "schema_version" _ ?_, (), rfl, _,
      found "state" _ ?_, _, rfl, _, found "consecutive_failures" _ ?_, _, ⟨rfl, counters.1⟩, _,
      found "consecutive_successes" _ ?_, _, ⟨rfl, counters.2⟩, _,
      found "state_changed_at" _ ?_, _, ⟨anchor, rfl, anchorSpelled, s.anchor_aware⟩, _,
      pendingFound, _, pendingDecoded, _, found "next_notification_id" _ ?_, _,
      ⟨rfl, s.admissible.nextPositive⟩, _, currentFound, _, currentDecoded,
      DeadManStatus.make_eq_ok.mpr rfl⟩
    all_goals simp

end DeadMan
end HermesSentinel
