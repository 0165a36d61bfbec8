import HermesSentinel.DeadMan.Cycle

namespace HermesSentinel
namespace DeadMan

open Python
open Foundation

/-!
# What is loaded can be saved again

The decoder takes a timestamp for what its own offset says; the encoder needs
its value in UTC.  An evaluation adds no timestamp but its own moment, and an
acknowledgement none at all.  A loaded status can therefore be saved at every
later point exactly when the document it was read from has only timestamps
that UTC can express.
-/

/-- What evaluations at UTC moments and acknowledgements make of a status. -/
inductive Progress (s : DeadManStatus) : DeadManStatus -> Prop
  | start : Progress s s
  | advance {before after : DeadManStatus} (reached : Progress s before)
      (outcome : DeadManProbeOutcome) (wall : WallClock)
      (advanced : advanceDeadmanStatus before outcome (DateTime.utc wall) = .ok after) :
      Progress s after
  | acknowledge {before after : DeadManStatus} (reached : Progress s before) (id : Int)
      (acknowledged : acknowledgeDeadmanNotification before id = .ok after) : Progress s after

theorem Advanced.timestamps {f f' : StatusFields} {now : DateTime} {outcome : DeadManProbeOutcome}
    (advanced : Advanced f now outcome f') {value : DateTime} (member : value ∈ f'.timestamps) :
    value ∈ f.timestamps ∨ value = now := by
  have anchored : forall {pending : List DeadManNotification},
      pending = f.pendingNotifications ->
      value ∈ (some now).toList ++ pending.map DeadManNotification.confirmedAt ->
        value ∈ f.timestamps ∨ value = now := by
    rintro _ rfl within
    rcases List.mem_append.mp within with anchor | older
    · exact .inr (List.mem_singleton.mp anchor)
    · exact .inl (List.mem_append_right _ older)
  have extended : forall {kind : DeadManNotificationKind} {intent : DeadManNotification},
      Allocated f now kind intent ->
      value ∈ (some now).toList ++
          (f.pendingNotifications ++ [intent]).map DeadManNotification.confirmedAt ->
        value ∈ f.timestamps ∨ value = now := by
    intro kind intent allocated within
    rw [List.map_append, <- List.append_assoc] at within
    rcases List.mem_append.mp within with before | new
    · exact anchored rfl before
    · rw [List.map_singleton, allocated.confirmedAt] at new
      exact .inr (List.mem_singleton.mp new)
  cases advanced with
  | baseline _ => exact anchored rfl member
  | steady _ => exact .inl member
  | recovering _ _ => exact .inl member
  | recoveredSilently _ _ _ _ _ => exact anchored rfl member
  | recoveredAnnounced _ _ _ _ _ intent allocated => exact extended allocated member
  | held _ => exact .inl member
  | suspecting _ _ => exact .inl member
  | confirmed _ _ intent allocated _ _ _ => exact extended allocated member

theorem advance_representable {s s' : DeadManStatus} {outcome : DeadManProbeOutcome} {wall : WallClock}
    (advanced : advanceDeadmanStatus s outcome (DateTime.utc wall) = .ok s')
    (representable : s.toStatusFields.UtcRepresentable) : s'.toStatusFields.UtcRepresentable := by
  intro value member
  rcases (advance_cases advanced).2.2.timestamps member with old | rfl
  · exact representable value old
  · exact DateTime.utcRepresentable_utc wall

theorem acknowledge_representable {s s' : DeadManStatus} {id : Int}
    (acknowledged : acknowledgeDeadmanNotification s id = .ok s')
    (representable : s.toStatusFields.UtcRepresentable) : s'.toStatusFields.UtcRepresentable := by
  rcases acknowledge_cases acknowledged with ⟨head, rest, shape, _, fields⟩
  intro value member
  apply representable value
  rw [fields] at member
  rcases List.mem_append.mp member with anchor | pending
  · exact List.mem_append_left _ anchor
  · apply List.mem_append_right
    rw [shape, List.map_cons]
    exact List.mem_cons_of_mem _ pending

theorem Progress.representable {s s' : DeadManStatus} (progress : Progress s s')
    (representable : s.toStatusFields.UtcRepresentable) : s'.toStatusFields.UtcRepresentable := by
  induction progress with
  | start => exact representable
  | advance _ _ _ advanced inductionHypothesis => exact advance_representable advanced inductionHypothesis
  | acknowledge _ _ acknowledged inductionHypothesis =>
      exact acknowledge_representable acknowledged inductionHypothesis

/-- A cycle in which only the accesses to the state file may fail: neither the
probe nor the clock nor the sender raises, and the clock reads a moment of UTC
that does not lie before the anchor of the status. -/
structure Undisturbed (environment : CycleEnvironment) (s : DeadManStatus) : Prop where
  probe : forall e, environment.probe ≠ .raises e
  clock : forall e, environment.clock ≠ .raises e
  reading : forall reading, environment.clock = .returns reading ->
    exists wall, reading = .datetime (DateTime.utc wall) ∧
      NotBefore s.stateChangedAt (DateTime.utc wall)
  send : forall e, environment.send ≠ .raises e

/-- What is raised, if anything, is the error of the store. -/
def StoreErrorOnly (interruption : Interruption) (_ : World) : Prop :=
  forall e, interruption = .raised e -> e.kind = .deadManStateStoreError

section Worlds

variable {scanner : JsonScanner} {reader : IsoReader}

theorem storeErrorOnly_crashed (w : World) : StoreErrorOnly .crashed w := by
  intro e impossible
  cases impossible

theorem storeFailure_only {α : Type} {pre : World -> Prop} {post : α -> World -> Prop}
    (message : String) :
    Program.Spec pre (pythonCall (storeFailure message)) post StoreErrorOnly := by
  refine .interrupt fun w _ e same => ?_
  cases same
  rfl

theorem load_only {file : StateFile} {s : DeadManStatus}
    (loaded : loadFile scanner reader file = .ok s) (access : ReadAccess) :
    Program.Spec (fun w => w.file = file) (load scanner reader access) (fun s' _ => s' = s)
      StoreErrorOnly := by
  cases access with
  | completes =>
      intro w same
      have result : load scanner reader .completes w = (.ok s, w) := by
        show pythonCall (loadFile scanner reader w.file) w = _
        rw [same, loaded]
        rfl
      rw [result]
  | fails => exact storeFailure_only _
  | crashes => exact .interrupt fun w _ => storeErrorOnly_crashed w

theorem await_only {α : Type} {pre : World -> Prop} {reply : Reply α}
    (quiet : forall e, reply ≠ .raises e) :
    Program.Spec pre (await reply) (fun value _ => reply = .returns value) StoreErrorOnly := by
  cases reply with
  | returns value => exact .pure fun _ _ => rfl
  | raises e => exact absurd rfl (quiet e)
  | crashes => exact .interrupt fun w _ => storeErrorOnly_crashed w

theorem send_only {pre : World -> Prop} (notification : DeadManNotification) {reply : Reply Unit}
    (quiet : forall e, reply ≠ .raises e) :
    Program.Spec pre (send reply notification) (fun _ _ => True) StoreErrorOnly := by
  have logged : Program.Spec pre (Program.update fun w : World =>
      { w with log := w.log ++ [.sent notification reply.delivered w.file] })
      (fun _ _ => True) StoreErrorOnly := .update fun _ _ => trivial
  exact .bind logged fun _ => (await_only quiet).mono (fun _ _ => trivial) (fun _ _ _ => trivial)
    fun _ _ only => only

/-- A representable status is saved, or the error is the store's. -/
theorem save_only {pre : World -> Prop} {s : DeadManStatus}
    (representable : s.toStatusFields.UtcRepresentable) (access : WriteAccess) :
    Program.Spec pre (save access s) (fun _ _ => True) StoreErrorOnly := by
  rcases encode_total representable with ⟨payload, encoded⟩
  have serialised : forall e, serialise s = .error e -> e.kind = .deadManStateStoreError := by
    intro e failed
    rcases serialise_raises s e failed with overflow | bounded
    · rcases Utf8.encode_ascii (encoded_ascii encoded) with ⟨data, written⟩
      rw [serialise, encoded, ok_bind, written] at failed
      dsimp only at failed
      split at failed
      · cases failed
        rfl
      · cases failed
    · exact bounded
  have called : Program.Spec pre (pythonCall (serialise s)) (fun _ _ => True) StoreErrorOnly := by
    cases built : serialise s with
    | ok data => exact .pure fun _ _ => trivial
    | error e =>
        refine .interrupt fun w _ raised same => ?_
        cases same
        exact serialised e built
  refine .bind called fun data => ?_
  have replaced : Program.Spec (fun _ => True) (replaceFile data) (fun _ _ => True) StoreErrorOnly :=
    .update fun _ _ => trivial
  cases access with
  | createFails => exact storeFailure_only _
  | writeFails => exact storeFailure_only _
  | replaceFails => exact storeFailure_only _
  | crashes => exact .interrupt fun w _ => storeErrorOnly_crashed w
  | crashesReplaced => exact .bind replaced fun _ => .interrupt fun w _ => storeErrorOnly_crashed w
  | completes => exact replaced

theorem pythonCall_only {α : Type} {pre : World -> Prop} {call : Fallible α} {value : α}
    (returned : call = .ok value) :
    Program.Spec pre (pythonCall call) (fun result _ => result = value) StoreErrorOnly := by
  rw [returned]
  exact .pure fun _ _ => rfl

/-- An undisturbed cycle on a representable status fails with the store's error only. -/
theorem cycle_only {file : StateFile} {s : DeadManStatus}
    (loaded : loadFile scanner reader file = .ok s)
    (representable : s.toStatusFields.UtcRepresentable) {environment : CycleEnvironment}
    (undisturbed : Undisturbed environment s) :
    Program.Spec (fun w => w.file = file) (runDeadmanCycle scanner reader environment)
      (fun _ _ => True) StoreErrorOnly := by
  refine .bind (load_only loaded environment.load) fun s' => .assuming ?_
  rintro rfl
  refine .bind (await_only undisturbed.probe) fun outcome => .assuming fun _ => ?_
  refine .bind (await_only undisturbed.clock) fun reading => .assuming fun read => ?_
  rcases undisturbed.reading reading read with ⟨wall, rfl, notBefore⟩
  have accepted : requireAwareNow (.datetime (DateTime.utc wall)) = .ok (DateTime.utc wall) := rfl
  refine .bind (pythonCall_only accepted) fun now => .assuming ?_
  rintro rfl
  rcases advance_total s' outcome (DateTime.isAware_utc wall) notBefore with ⟨advanced, advancing⟩
  have advancedRepresentable := advance_representable advancing representable
  refine .bind (pythonCall_only advancing) fun evaluated => .assuming ?_
  rintro rfl
  refine .bind (save_only advancedRepresentable environment.firstSave) fun _ => ?_
  split
  · exact .pure fun _ _ => trivial
  · rename_i oldest rest shape
    refine .bind (send_only oldest undisturbed.send) fun _ => ?_
    rcases acknowledge_head evaluated shape with ⟨acknowledged, acknowledging, _⟩
    refine .bind (pythonCall_only acknowledging) fun _ => .assuming ?_
    rintro rfl
    refine .bind (save_only (acknowledge_representable acknowledging advancedRepresentable)
      environment.secondSave) fun _ => ?_
    exact .pure fun _ _ => trivial

variable (scanner reader)

/-- A loaded status and all that comes of it are saved and read back, and an
undisturbed cycle on its file fails with the store's error only. -/
structure Resaves (payload : PyStr) (s : DeadManStatus) : Prop where
  saved : forall s', Progress s s' -> exists written s'',
    encodeDeadmanStatus s' = .ok written ∧ decodeDeadmanStatus scanner reader written = .ok s'' ∧
      s''.toStatusFields.content = s'.toStatusFields.content
  cycle : forall content log environment e, Utf8.decode .strict content = some payload ->
    content.length ≤ maxStateBytes -> Undisturbed environment s ->
      (runDeadmanCycle scanner reader environment ⟨some content, log⟩).1 = .error (.raised e) ->
        e.kind = .deadManStateStoreError

variable {scanner reader}

theorem loadFile_of_decoded {payload : PyStr} {s : DeadManStatus}
    (decoded : decodeDeadmanStatus scanner reader payload = .ok s) {content : List Utf8.Byte}
    (spelled : Utf8.decode .strict content = some payload) (small : content.length ≤ maxStateBytes) :
    loadFile scanner reader (some content) = .ok s := by
  have whole : content.take (maxStateBytes + 1) = content :=
    List.take_of_length_le (Nat.le_succ_of_le small)
  simp only [loadFile, whole, if_neg (Nat.not_lt.mpr small), spelled, decoded]

/-- An accepted text can be saved again, at once and after every progress,
exactly when UTC can express all its timestamps. -/
theorem resaves_iff {payload : PyStr} {v : Json} {s : DeadManStatus}
    (scanned : scanner.scan payload = .value v)
    (decoded : decodeDeadmanStatus scanner reader payload = .ok s) :
    Resaves scanner reader payload s ↔ TimestampsRepresentable reader v := by
  rcases decode_eq_ok.mp decoded with ⟨v', anchor, times, scanned', _, spelled⟩
  rw [scanned] at scanned'
  cases scanned'
  rw [spelled.representable_iff]
  constructor
  · intro resaves
    rcases resaves.saved s .start with ⟨written, _, encoded, _⟩
    rcases encode_eq_ok.mp encoded with ⟨document, built, _⟩
    exact (encodeDocument_total_iff s).mp ⟨document, built⟩
  · intro representable
    constructor
    · intro s' progress
      rcases encode_total (progress.representable representable) with ⟨written, encoded⟩
      exact ⟨written, s'.inUtc, encoded, decode_encode scanner reader encoded, s'.content_inUtc⟩
    · intro content log environment e spelledContent small undisturbed raised
      have ended := cycle_only (loadFile_of_decoded decoded spelledContent small) representable
        undisturbed ⟨some content, log⟩ rfl
      rcases outcome : runDeadmanCycle scanner reader environment ⟨some content, log⟩ with
        ⟨result, after⟩
      rw [outcome] at ended raised
      dsimp only at raised
      rw [raised] at ended
      exact ended e rfl

end Worlds

/-- The file of an outage that is not yet reported. -/
theorem firstOutage_resaved :
    exists s payload, s.toStatusFields = firstOutage ⟨0, by decide⟩ ∧
      encodeDeadmanStatus s = .ok payload ∧
      Resaves JsonScanner.standard extendedFormat payload s.inUtc := by
  have representable : (firstOutage ⟨0, by decide⟩).UtcRepresentable := by
    intro value member
    simp only [firstOutage, StatusFields.timestamps, Option.toList_some, List.map_cons, List.map_nil,
      List.cons_append, List.nil_append, List.mem_cons, List.not_mem_nil, or_false] at member
    rcases member with rfl | rfl
    all_goals exact DateTime.utcRepresentable_utc _
  rcases @encode_total ⟨firstOutage ⟨0, by decide⟩, rfl⟩ representable with ⟨payload, encoded⟩
  have decoded := decode_encode JsonScanner.standard extendedFormat encoded
  rcases decode_eq_ok.mp decoded with ⟨v, anchor, times, scanned, _, spelled⟩
  refine ⟨_, payload, rfl, encoded, (resaves_iff scanned decoded).mpr ?_⟩
  refine spelled.representable_iff.mpr fun value member => ?_
  rcases DeadManStatus.inUtc_of_representable representable value member with ⟨wall, rfl⟩
  exact DateTime.utcRepresentable_utc _

/-- A document that is loaded and cannot be saved again, even unchanged. -/
theorem eastDocument_not_resaved :
    exists payload s, decodeDeadmanStatus JsonScanner.standard extendedFormat payload = .ok s ∧
      exists s', Progress s s' ∧
        encodeDeadmanStatus s' = raise .overflowError "date value out of range" :=
  ⟨Json.render eastDocument, eastStatus, decode_eastDocument.2, eastStatus, .start, rfl⟩

end DeadMan
end HermesSentinel
