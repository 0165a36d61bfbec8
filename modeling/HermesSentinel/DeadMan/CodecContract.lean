import HermesSentinel.DeadMan.CodecRoundTrip

namespace HermesSentinel
namespace DeadMan

open Python
open Foundation

/-!
# The contract of the codec

First, decoding fails with `DeadManStateDecodeError` and with nothing else: no
lookup misses once the keys have been compared, and what a constructor raises
is a `ValueError` that the decoder turns into its own error.

Then the two directions of the codec are put together.  A snapshot can be
written exactly when its timestamps have UTC values in the years 1 to 9999; the
reader of timestamps knows no such bound, and this is the only way in which an
accepted document can differ from one that the encoder would build.
-/

abbrev IsDecodeError (kind : ExceptionClass) : Prop :=
  kind = .deadManStateDecodeError

/-- What the body of a wrapped constructor call may raise. -/
abbrev IsInvalid (kind : ExceptionClass) : Prop :=
  kind = .deadManStateDecodeError ∨ kind = .valueError

theorem decodeFailure_raises {α : Type} (message : String) :
    RaisesOnly IsDecodeError (decodeFailure message : Fallible α) :=
  .raise _ (Eq.refl _)

theorem orInvalid {α : Type} {call : Fallible α} (only : RaisesOnly IsDecodeError call) :
    RaisesOnly IsInvalid call :=
  only.mono fun _ => Or.inl

theorem wrapInvalid_raises {α : Type} (what : String) {call : Fallible α}
    (only : RaisesOnly IsInvalid call) : RaisesOnly IsDecodeError (wrapInvalid what call) := by
  cases call with
  | ok value => exact .ok value
  | error e =>
      simp only [wrapInvalid]
      split
      · rename_i decodeError
        intro raised failed
        cases failed
        exact decodeError
      · split
        · exact decodeFailure_raises _
        · rename_i other notValueError
          rcases only e rfl with decodeError | valueError
          · exact absurd decodeError other
          · rw [valueError] at notValueError
            exact absurd rfl notValueError

theorem requireExactKeys_raises (name : String) (members : List (Text × Json))
    (fields : List Text) : RaisesOnly IsDecodeError (requireExactKeys name members fields) := by
  unfold requireExactKeys
  split
  · exact .ok ()
  · exact decodeFailure_raises _

/-- Once the keys have been compared, a named lookup cannot miss. -/
theorem item_raises {allowed : ExceptionClass -> Prop} {name key : String}
    {members : List (Text × Json)} {fields : List Text} {passed : Unit}
    (exact : requireExactKeys name members fields = .ok passed) (named : text key ∈ fields) :
    RaisesOnly allowed (item members key) := by
  rcases Json.exists_lookup ((requireExactKeys_eq_ok.mp exact).2 named) with ⟨value, found⟩
  rw [item_eq_ok.mpr found]
  exact .ok value

theorem decodeStateValue_raises (name : String) (v : Json) :
    RaisesOnly IsDecodeError (decodeStateValue name v) := by
  unfold decodeStateValue
  split
  · split
    · exact .ok _
    · exact decodeFailure_raises _
  · exact decodeFailure_raises _

theorem decodeNotificationKind_raises (name : String) (v : Json) :
    RaisesOnly IsDecodeError (decodeNotificationKind name v) := by
  unfold decodeNotificationKind
  split
  · split
    · exact .ok _
    · exact decodeFailure_raises _
  · exact decodeFailure_raises _

theorem decodeInteger_raises (least : Int) (name : String) (v : Json) :
    RaisesOnly IsDecodeError (decodeInteger least name v) := by
  unfold decodeInteger
  split
  · split
    · exact decodeFailure_raises _
    · exact .ok _
  · exact decodeFailure_raises _

theorem decodeBool_raises (name : String) (v : Json) :
    RaisesOnly IsDecodeError (decodeBool name v) := by
  unfold decodeBool
  split
  · exact .ok _
  · exact decodeFailure_raises _

theorem decodeDatetime_raises (reader : IsoReader) (name : String) (v : Json) :
    RaisesOnly IsDecodeError (decodeDatetime reader name v) := by
  unfold decodeDatetime
  split
  · split
    · exact decodeFailure_raises _
    · split
      · exact .ok _
      · exact decodeFailure_raises _
  · exact decodeFailure_raises _

theorem decodeOptionalDatetime_raises (reader : IsoReader) (name : String) (v : Json) :
    RaisesOnly IsDecodeError (decodeOptionalDatetime reader name v) := by
  unfold decodeOptionalDatetime
  split
  · exact .ok _
  · exact .bind (decodeDatetime_raises reader name v) fun _ _ => .ok _

theorem transition_make_raises (fromState toState : DeadManState) (confirmedAt : DateTime) :
    RaisesOnly IsInvalid (DeadManTransition.make fromState toState confirmedAt) := by
  unfold DeadManTransition.make
  split
  · split
    · exact .ok _
    · exact .raise _ (Or.inr rfl)
  · exact .raise _ (Or.inr rfl)

theorem notification_make_raises (notificationId : Int) (kind : DeadManNotificationKind)
    (transition : DeadManTransition) :
    RaisesOnly IsInvalid (DeadManNotification.make notificationId kind transition) := by
  unfold DeadManNotification.make
  repeat' split
  · exact .ok _
  all_goals exact .raise _ (Or.inr rfl)

theorem currentDown_make_raises (notificationId : Int) (acknowledged : Bool) :
    RaisesOnly IsInvalid (DeadManCurrentDown.make notificationId acknowledged) := by
  unfold DeadManCurrentDown.make
  split
  · exact .ok _
  · exact .raise _ (Or.inr rfl)

theorem decodeTransition_raises (reader : IsoReader) (name : String) (v : Json) :
    RaisesOnly IsDecodeError (decodeTransition reader name v) := by
  unfold decodeTransition
  split
  · refine .bind (requireExactKeys_raises _ _ _) fun _ exact => wrapInvalid_raises _ ?_
    refine .bind (item_raises exact (by decide)) fun _ _ => ?_
    refine .bind (orInvalid (decodeStateValue_raises _ _)) fun _ _ => ?_
    refine .bind (item_raises exact (by decide)) fun _ _ => ?_
    refine .bind (orInvalid (decodeStateValue_raises _ _)) fun _ _ => ?_
    refine .bind (item_raises exact (by decide)) fun _ _ => ?_
    refine .bind (orInvalid (decodeDatetime_raises _ _ _)) fun _ _ => ?_
    exact transition_make_raises _ _ _
  · exact decodeFailure_raises _

theorem decodeNotification_raises (reader : IsoReader) (name : String) (v : Json) :
    RaisesOnly IsDecodeError (decodeNotification reader name v) := by
  unfold decodeNotification
  split
  · refine .bind (requireExactKeys_raises _ _ _) fun _ exact => ?_
    refine .bind (item_raises exact (by decide)) fun _ _ => ?_
    refine .bind (decodeNotificationKind_raises _ _) fun _ _ => ?_
    refine .bind (item_raises exact (by decide)) fun _ _ => ?_
    refine .bind (decodeTransition_raises _ _ _) fun _ _ => wrapInvalid_raises _ ?_
    refine .bind (item_raises exact (by decide)) fun _ _ => ?_
    refine .bind (orInvalid (decodeInteger_raises _ _ _)) fun _ _ => ?_
    exact notification_make_raises _ _ _
  · exact decodeFailure_raises _

theorem decodeElements_raises (reader : IsoReader) (name : String) (elements : List Json) :
    forall index, RaisesOnly IsDecodeError (decodeElements reader name index elements) := by
  induction elements with
  | nil => exact fun _ => .ok _
  | cons element rest inductionHypothesis =>
      intro index
      refine .bind (decodeNotification_raises _ _ _) fun _ _ => ?_
      exact .bind (inductionHypothesis _) fun _ _ => .ok _

theorem decodeNotifications_raises (reader : IsoReader) (name : String) (v : Json) :
    RaisesOnly IsDecodeError (decodeNotifications reader name v) := by
  unfold decodeNotifications
  split
  · exact decodeElements_raises _ _ _ _
  · exact decodeFailure_raises _

theorem decodeCurrentDown_raises (name : String) (v : Json) :
    RaisesOnly IsDecodeError (decodeCurrentDown name v) := by
  unfold decodeCurrentDown
  split
  · exact .ok _
  · refine .bind (requireExactKeys_raises _ _ _) fun _ exact => wrapInvalid_raises _ ?_
    refine .bind (item_raises exact (by decide)) fun _ _ => ?_
    refine .bind (orInvalid (decodeInteger_raises _ _ _)) fun _ _ => ?_
    refine .bind (item_raises exact (by decide)) fun _ _ => ?_
    refine .bind (orInvalid (decodeBool_raises _ _)) fun _ _ => ?_
    exact .bind (currentDown_make_raises _ _) fun _ _ => .ok _
  · exact decodeFailure_raises _

theorem checkVersion_raises (v : Json) : RaisesOnly IsDecodeError (checkVersion v) := by
  unfold checkVersion
  split
  · split
    · exact .ok _
    · exact decodeFailure_raises _
  · exact decodeFailure_raises _

theorem checkEach_raises {α : Type} {allowed : ExceptionClass -> Prop}
    {check : α -> Fallible Unit} (only : forall value, RaisesOnly allowed (check value))
    (values : List α) : RaisesOnly allowed (checkEach check values) := by
  induction values with
  | nil => exact .ok ()
  | cons head tail inductionHypothesis => exact .bind (only head) fun _ _ => inductionHypothesis

theorem checkIncreasing_raises (previous : Option Int) (pending : List DeadManNotification) :
    RaisesOnly IsInvalid (StatusFields.checkIncreasing previous pending) := by
  induction pending generalizing previous with
  | nil => exact .ok ()
  | cons head tail inductionHypothesis =>
      cases previous with
      | none => exact inductionHypothesis (some head.notificationId)
      | some _ =>
          exact .bind (.require (Or.inr rfl) _) fun _ _ =>
            inductionHypothesis (some head.notificationId)

/-- The constructor of the snapshot raises nothing but `ValueError`. -/
theorem postInit_raises (f : StatusFields) : RaisesOnly IsInvalid f.postInit := by
  have valueError : IsInvalid .valueError := Or.inr rfl
  have streaks : RaisesOnly IsInvalid f.checkStreaks := by
    refine .bind (.require valueError _) fun _ _ => .bind (.require valueError _) fun _ _ => ?_
    split
    · exact .bind (.require valueError _) fun _ _ => .require valueError _
    · exact .bind (.require valueError _) fun _ _ => .require valueError _
  have contiguous : RaisesOnly IsInvalid f.checkContiguous := by
    unfold StatusFields.checkContiguous
    split
    · exact .bind (.require valueError _) fun _ _ => .require valueError _
    · exact .ok ()
  have anchor : RaisesOnly IsInvalid f.checkAnchor := by
    unfold StatusFields.checkAnchor
    split
    · exact .bind (.require valueError _) fun _ _ =>
        checkEach_raises (fun _ => .require valueError _) _
    · exact .require valueError _
  have unknown : RaisesOnly IsInvalid f.checkUnknown := by
    unfold StatusFields.checkUnknown
    split
    · exact .bind (.require valueError _) fun _ _ => .bind (.require valueError _) fun _ _ =>
        .require valueError _
    · exact .ok ()
  have current : RaisesOnly IsInvalid f.checkCurrentDown := by
    unfold StatusFields.checkCurrentDown
    split
    · exact .require valueError _
    · split
      · exact .raise _ valueError
      · refine .bind (.require valueError _) fun _ _ => ?_
        split
        · exact .require valueError _
        · split
          · exact .raise _ valueError
          · exact .bind (.require valueError _) fun _ _ =>
              .bind (.require valueError _) fun _ _ => .require valueError _
  exact .bind streaks fun _ _ => .bind (checkIncreasing_raises none _) fun _ _ =>
    .bind (.require valueError _) fun _ _ => .bind contiguous fun _ _ =>
      .bind (checkEach_raises (fun _ => .require valueError _) _) fun _ _ =>
        .bind anchor fun _ _ => .bind unknown fun _ _ => current

theorem status_make_raises (f : StatusFields) : RaisesOnly IsInvalid (DeadManStatus.make f) := by
  unfold DeadManStatus.make
  split
  · exact .ok _
  · rename_i e failed
    intro raised same
    cases same
    exact postInit_raises f e failed

theorem decodeDocument_raises (reader : IsoReader) (v : Json) :
    RaisesOnly IsDecodeError (decodeDocument reader v) := by
  unfold decodeDocument
  split
  · refine .bind (requireExactKeys_raises _ _ _) fun _ exact => ?_
    refine .bind (item_raises exact (by decide)) fun _ _ => ?_
    refine .bind (checkVersion_raises _) fun _ _ => wrapInvalid_raises _ ?_
    refine .bind (item_raises exact (by decide)) fun _ _ => ?_
    refine .bind (orInvalid (decodeStateValue_raises _ _)) fun _ _ => ?_
    refine .bind (item_raises exact (by decide)) fun _ _ => ?_
    refine .bind (orInvalid (decodeInteger_raises _ _ _)) fun _ _ => ?_
    refine .bind (item_raises exact (by decide)) fun _ _ => ?_
    refine .bind (orInvalid (decodeInteger_raises _ _ _)) fun _ _ => ?_
    refine .bind (item_raises exact (by decide)) fun _ _ => ?_
    refine .bind (orInvalid (decodeOptionalDatetime_raises _ _ _)) fun _ _ => ?_
    refine .bind (item_raises exact (by decide)) fun _ _ => ?_
    refine .bind (orInvalid (decodeNotifications_raises _ _ _)) fun _ _ => ?_
    refine .bind (item_raises exact (by decide)) fun _ _ => ?_
    refine .bind (orInvalid (decodeInteger_raises _ _ _)) fun _ _ => ?_
    refine .bind (item_raises exact (by decide)) fun _ _ => ?_
    refine .bind (orInvalid (decodeCurrentDown_raises _ _)) fun _ _ => ?_
    exact status_make_raises _
  · exact decodeFailure_raises _

/-- Whatever the text, decoding fails with its own error only. -/
theorem decode_raises (scanner : JsonScanner) (reader : IsoReader) (payload : PyStr) :
    RaisesOnly IsDecodeError (decodeDeadmanStatus scanner reader payload) := by
  unfold decodeDeadmanStatus
  split
  · exact decodeDocument_raises reader _
  · rename_i e failed
    split
    · exact decodeFailure_raises _
    · rename_i uncaught
      rcases loads_raises scanner deadManHooks payload e failed with valueError | tooDeep
      · rw [valueError] at uncaught
        exact absurd (Or.inl rfl) uncaught
      · exact absurd (Or.inr tooDeep) uncaught

/-! ## What is accepted -/

/-- The texts at a key of an object, or at its elements' path below. -/
def textsAt (key : Text) (v : Json) : List PyStr :=
  match v with
  | .object members =>
      match members.lookup key with
      | some (.str time) => [time]
      | _ => []
  | _ => []

def valuesAt (key : Text) (v : Json) : List Json :=
  match v with
  | .object members => (members.lookup key).toList
  | _ => []

def elementsOf : Json -> List Json
  | .array elements => elements
  | _ => []

/-- The timestamp texts of a document: the anchor, then each transition's. -/
def timestampTexts (v : Json) : List PyStr :=
  textsAt (text "state_changed_at") v ++
    ((valuesAt (text "pending_notifications") v).flatMap elementsOf).flatMap fun element =>
      (valuesAt (text "transition") element).flatMap (textsAt (text "at"))

/-- Every timestamp text of the document that reads as a datetime reads as one
with a UTC value in the years 1 to 9999. -/
def TimestampsRepresentable (reader : IsoReader) (v : Json) : Prop :=
  forall time, time ∈ timestampTexts v ->
    forall value, reader.fromisoformat time = some value -> value.UtcRepresentable

/-- Two texts that read as aware datetimes of one instant. -/
def SameInstant (reader : IsoReader) (time other : PyStr) : Prop :=
  exists value otherValue, reader.fromisoformat time = some value ∧
    reader.fromisoformat other = some otherValue ∧ value.isAware = true ∧
    otherValue.isAware = true ∧ value.instant = otherValue.instant

def SameAnchor (reader : IsoReader) : Option PyStr -> Option PyStr -> Prop
  | none, none => True
  | some time, some other => SameInstant reader time other
  | _, _ => False

/-- The document is the one the encoder builds for the status, in any order of
members, except that its timestamps may be spelled differently. -/
def EncodedUpToSpelling (reader : IsoReader) (s : DeadManStatus) (v : Json) : Prop :=
  exists anchor times written writtenTimes,
    encodeDocument s = .ok (statusDocument s.toStatusFields written writtenTimes) ∧
      Json.sortKeys v = Json.sortKeys (statusDocument s.toStatusFields anchor times) ∧
        SameAnchor reader anchor written ∧ List.Forall₂ (SameInstant reader) times writtenTimes

theorem valuesAt_of_perm {members named : List (Text × Json)} (perm : members.Perm named)
    (distinct : (Json.keys named).Nodup) (key : Text) (value : Json)
    (present : (key, value) ∈ named) : valuesAt key (.object members) = [value] := by
  rw [valuesAt, Json.lookup_of_perm perm distinct _ _ present]
  rfl

theorem textsAt_of_perm {members named : List (Text × Json)} (perm : members.Perm named)
    (distinct : (Json.keys named).Nodup) (key : Text) (time : PyStr)
    (present : (key, Json.str time) ∈ named) : textsAt key (.object members) = [time] := by
  rw [textsAt, Json.lookup_of_perm perm distinct _ _ present]

theorem NotificationSpelled.texts {reader : IsoReader} {notification : DeadManNotification}
    {time : PyStr} {v : Json} (spelled : NotificationSpelled reader notification time v) :
    (valuesAt (text "transition") v).flatMap (textsAt (text "at")) = [time] := by
  rcases spelled with ⟨members, _, rfl, perm, transitionMembers, rfl, transitionPerm, _⟩
  have distinct : notificationFields.Nodup := by decide
  have transitionDistinct : transitionFields.Nodup := by decide
  rw [valuesAt_of_perm perm distinct (text "transition") (.object transitionMembers) (by simp), List.flatMap_singleton,
    textsAt_of_perm transitionPerm transitionDistinct (text "at") time (by simp)]

theorem NotificationsSpelled.texts {reader : IsoReader} :
    forall {notifications : List DeadManNotification} {times : List PyStr} {elements : List Json},
      NotificationsSpelled reader notifications times elements ->
        (elements.flatMap fun element =>
          (valuesAt (text "transition") element).flatMap (textsAt (text "at"))) = times ∧
        TimesSpelled reader times notifications
  | [], [], [], _ => ⟨rfl, .nil⟩
  | notification :: rest, time :: times, element :: elements, spelled => by
      rcases NotificationsSpelled.texts spelled.2 with ⟨texts, read⟩
      have first := spelled.1
      rw [List.flatMap_cons, first.texts, texts]
      rcases first with ⟨_, _, _, _, _, _, _, dated⟩
      exact ⟨rfl, .cons dated read⟩

/-- The timestamp texts of a spelling are the texts it was spelled with. -/
theorem StatusSpelled.texts {reader : IsoReader} {f : StatusFields} {anchor : Option PyStr}
    {times : List PyStr} {v : Json} (spelled : StatusSpelled reader f anchor times v) :
    timestampTexts v = anchor.toList ++ times := by
  rcases spelled with ⟨members, elements, current, rfl, perm, _, pending, _⟩
  have distinct : stateFields.Nodup := by decide
  have anchorTexts : textsAt (text "state_changed_at") (.object members) = anchor.toList := by
    rw [textsAt, Json.lookup_of_perm perm distinct (text "state_changed_at") (timestampDocument anchor) (by simp)]
    cases anchor <;> rfl
  rw [timestampTexts, anchorTexts,
    valuesAt_of_perm perm distinct (text "pending_notifications") (.array elements) (by simp),
    List.flatMap_singleton, elementsOf, pending.texts.1]

theorem AnchorSpelled.forall_iff {reader : IsoReader} {anchor : Option PyStr}
    {value : Option DateTime} (spelled : AnchorSpelled reader anchor value)
    (P : DateTime -> Prop) :
    (forall time, time ∈ anchor.toList ->
      forall value, reader.fromisoformat time = some value -> P value) ↔
        forall found, value = some found -> P found := by
  cases anchor with
  | none =>
      cases value with
      | none => simp
      | some _ => exact spelled.elim
  | some time =>
      cases value with
      | none => exact spelled.elim
      | some value =>
          have read : reader.fromisoformat time = some value := spelled
          simp [read]

theorem TimesSpelled.forall_iff {reader : IsoReader} {times : List PyStr}
    {notifications : List DeadManNotification} (spelled : TimesSpelled reader times notifications)
    (P : DateTime -> Prop) :
    (forall time, time ∈ times ->
      forall value, reader.fromisoformat time = some value -> P value) ↔
        forall n, n ∈ notifications -> P n.confirmedAt := by
  induction spelled with
  | nil => simp
  | cons read _ inductionHypothesis =>
      have first : reader.fromisoformat _ = some _ := read
      simp only [List.forall_mem_cons, inductionHypothesis, first, Option.some.injEq,
        forall_eq']

/-- The condition on the document says that the status can be written. -/
theorem StatusSpelled.representable_iff {reader : IsoReader} {f : StatusFields}
    {anchor : Option PyStr} {times : List PyStr} {v : Json}
    (spelled : StatusSpelled reader f anchor times v) :
    TimestampsRepresentable reader v ↔ f.UtcRepresentable := by
  rw [TimestampsRepresentable, spelled.texts, StatusFields.utcRepresentable_iff]
  rcases spelled with ⟨_, _, _, _, _, anchored, pending, _⟩
  rw [<- anchored.forall_iff, <- pending.texts.2.forall_iff]
  simp only [List.mem_append, or_imp, forall_and]

theorem sameAnchor_inUtc {reader : IsoReader} {anchor written : Option PyStr}
    {value : Option DateTime} (aware : forall found, value = some found -> found.isAware = true)
    (spelled : AnchorSpelled reader anchor value)
    (encoded : AnchorSpelled reader written (value.map DateTime.inUtc)) :
    SameAnchor reader anchor written := by
  cases value with
  | none =>
      cases anchor with
      | some _ => exact spelled.elim
      | none =>
          cases written with
          | some _ => exact encoded.elim
          | none => trivial
  | some value =>
      cases anchor with
      | none => exact spelled.elim
      | some time =>
          cases written with
          | none => exact encoded.elim
          | some other =>
              exact ⟨value, value.inUtc, spelled, encoded, aware value rfl,
                DateTime.isAware_inUtc (aware value rfl), (DateTime.instant_inUtc value).symm⟩

theorem sameTimes_inUtc {reader : IsoReader} {times writtenTimes : List PyStr}
    {notifications : List DeadManNotification} (spelled : TimesSpelled reader times notifications)
    (encoded : TimesSpelled reader writtenTimes (notifications.map DeadManNotification.inUtc)) :
    List.Forall₂ (SameInstant reader) times writtenTimes := by
  induction spelled generalizing writtenTimes with
  | nil =>
      cases encoded
      exact .nil
  | @cons time n _ _ read _ inductionHypothesis =>
      cases encoded with
      | cons writtenRead others =>
          refine .cons ?_ (inductionHypothesis others)
          exact ⟨n.confirmedAt, n.confirmedAt.inUtc, read, writtenRead, n.transition.aware,
            DateTime.isAware_inUtc n.transition.aware, (DateTime.instant_inUtc _).symm⟩

/-- A spelling is the encoder's document as soon as the status can be written. -/
theorem StatusSpelled.encodedUpToSpelling {reader : IsoReader} {s : DeadManStatus}
    {anchor : Option PyStr} {times : List PyStr} {v : Json}
    (spelled : StatusSpelled reader s.toStatusFields anchor times v)
    (representable : s.toStatusFields.UtcRepresentable) : EncodedUpToSpelling reader s v := by
  rcases (encodeDocument_total_iff s).mpr representable with ⟨document, encoded⟩
  rcases encodeDocument_eq_ok.mp encoded with ⟨written, writtenTimes, first, second, rfl⟩
  have sorted := spelled.sortKeys_eq
  rcases spelled with ⟨_, _, _, _, _, anchored, pending, _⟩
  exact ⟨anchor, times, written, writtenTimes, encoded, sorted,
    sameAnchor_inUtc s.anchor_aware anchored ((encodeAnchor_spec first).1 reader),
    sameTimes_inUtc pending.texts.2 ((encodeTimes_spec second).1 reader)⟩

/-! ## The contract -/

/-- A successful decoding is a strict document that spells the status. -/
theorem decode_eq_ok {scanner : JsonScanner} {reader : IsoReader} {payload : PyStr}
    {s : DeadManStatus} :
    decodeDeadmanStatus scanner reader payload = .ok s ↔
      exists v anchor times, scanner.scan payload = .value v ∧ Strict v ∧
        StatusSpelled reader s.toStatusFields anchor times v := by
  unfold decodeDeadmanStatus
  constructor
  · intro decoded
    split at decoded
    · rename_i v loaded
      rcases loads_eq_ok.mp loaded with ⟨scanned, strict⟩
      rcases (decodeDocument_eq_ok strict).mp decoded with ⟨anchor, times, spelled⟩
      exact ⟨v, anchor, times, scanned, strict, spelled⟩
    · split at decoded
      · cases decoded
      · cases decoded
  · rintro ⟨v, anchor, times, scanned, strict, spelled⟩
    rw [loads_eq_ok.mpr ⟨scanned, strict⟩]
    exact (decodeDocument_eq_ok strict).mpr ⟨anchor, times, spelled⟩

/-- Decoding inverts encoding up to the spelling of timestamps, and accepts
nothing else: an accepted document is the encoder's exactly when each of its
timestamps has a UTC value, and a text that is not accepted is refused with the
decoder's own error. -/
theorem codec_exact (scanner : JsonScanner) (reader : IsoReader) :
    (forall s : DeadManStatus, s.toStatusFields.UtcRepresentable ->
      exists payload s', encodeDeadmanStatus s = .ok payload ∧
        decodeDeadmanStatus scanner reader payload = .ok s' ∧
        s'.toStatusFields.content = s.toStatusFields.content ∧ s'.toStatusFields.InUtc ∧
        encodeDeadmanStatus s' = .ok payload) ∧
    (forall payload v s, scanner.scan payload = .value v ->
      decodeDeadmanStatus scanner reader payload = .ok s ->
        (EncodedUpToSpelling reader s v ↔ TimestampsRepresentable reader v)) ∧
    (forall payload e, decodeDeadmanStatus scanner reader payload = .error e ->
      e.kind = .deadManStateDecodeError) := by
  refine ⟨?_, ?_, fun payload => decode_raises scanner reader payload⟩
  · intro s representable
    rcases encode_total representable with ⟨payload, encoded⟩
    exact ⟨payload, s.inUtc, encoded, decode_encode scanner reader encoded, s.content_inUtc,
      DeadManStatus.inUtc_of_representable representable, encode_inUtc encoded⟩
  · intro payload v s scanned decoded
    rcases decode_eq_ok.mp decoded with ⟨v', anchor, times, scanned', strict, spelled⟩
    rw [scanned] at scanned'
    cases scanned'
    rw [spelled.representable_iff]
    constructor
    · rintro ⟨_, _, _, _, encoded, _⟩
      exact (encodeDocument_total_iff s).mp ⟨_, encoded⟩
    · exact spelled.encodedUpToSpelling

/-- The first midnight of the year 1, fourteen hours east of UTC. -/
def firstMidnightEast : DateTime where
  wall := ⟨0, by decide⟩
  tzinfo := some ⟨some ⟨14 * 3600 * 1000000, by decide⟩⟩

def eastFields : StatusFields where
  state := .up
  stateChangedAt := some firstMidnightEast

def eastStatus : DeadManStatus where
  toStatusFields := eastFields
  checked := rfl

def eastDocument : Json :=
  statusDocument eastFields (some (text "0001-01-01T00:00:00+14:00")) []

theorem decode_eastDocument :
    JsonScanner.standard.scan (Json.render eastDocument) = .value eastDocument ∧
      decodeDeadmanStatus JsonScanner.standard extendedFormat (Json.render eastDocument) =
        .ok eastStatus := by
  have fits : Json.Fits nestingBudget eastDocument := by
    refine fits_statusDocument 896 eastFields ?_ ?_
    · rintro _ ⟨⟩
      decide
    · intro _ impossible
      cases impossible
  have scanned := JsonScanner.standard.reads eastDocument fits
  have read : Spells extendedFormat (text "0001-01-01T00:00:00+14:00") firstMidnightEast := by
    show readExtended _ = _
    decide +kernel
  have spelled : StatusSpelled extendedFormat eastFields
      (some (text "0001-01-01T00:00:00+14:00")) [] eastDocument :=
    ⟨_, [], .null, rfl, List.Perm.refl _, read, trivial, rfl⟩
  exact ⟨scanned, decode_eq_ok.mpr ⟨_, _, _, scanned, strict_statusDocument _ _ _, spelled⟩⟩

theorem eastStatus_not_representable : ¬ eastStatus.toStatusFields.UtcRepresentable := by
  intro representable
  have impossible := representable firstMidnightEast (by simp [eastStatus, eastFields,
    StatusFields.timestamps])
  revert impossible
  decide

/-- The decoder accepts the document, but the encoder has none for its status. -/
theorem eastDocument_not_encodable :
    exists payload, JsonScanner.standard.scan payload = .value eastDocument ∧
      decodeDeadmanStatus JsonScanner.standard extendedFormat payload = .ok eastStatus ∧
      encodeDeadmanStatus eastStatus = raise .overflowError "date value out of range" ∧
      ¬ EncodedUpToSpelling extendedFormat eastStatus eastDocument := by
  refine ⟨Json.render eastDocument, decode_eastDocument.1, decode_eastDocument.2, rfl, ?_⟩
  rintro ⟨_, _, _, _, encoded, _⟩
  exact eastStatus_not_representable ((encodeDocument_total_iff eastStatus).mp ⟨_, encoded⟩)

end DeadMan
end HermesSentinel
