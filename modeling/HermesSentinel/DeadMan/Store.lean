import HermesSentinel.DeadMan.CodecContract
import HermesSentinel.Foundation.Utf8

namespace HermesSentinel
namespace DeadMan

open Python
open Foundation

/-!
# The state file

The file is absent or a sequence of bytes.  `loadFile` is what
`DeadManStateStore.load` makes of it and `serialise` the bytes that `save`
writes; what the file system does to a single access is left to the module of
the cycle.  Whatever is serialised is loaded again with the same content.
-/

/-- `MAX_DEADMAN_STATE_BYTES`. -/
def maxStateBytes : Nat := 1048576

/-- The state file: absent, or its bytes. -/
abbrev StateFile := Option (List Utf8.Byte)

def storeFailure {α : Type} (message : String) : Fallible α :=
  raise .deadManStateStoreError message

section Access

variable (scanner : JsonScanner) (reader : IsoReader)

/-- `load` once the file could be opened and read. -/
def loadFile : StateFile -> Fallible DeadManStatus
  | none => .ok DeadManStatus.initial
  | some content =>
      -- The read is bounded to one byte more than the limit.
      let raw := content.take (maxStateBytes + 1)
      if maxStateBytes < raw.length then
        storeFailure "dead-man state file exceeds the bounded size limit"
      else
        match Utf8.decode .strict raw with
        | none => storeFailure "dead-man state file is not valid UTF-8"
        | some payload =>
            match decodeDeadmanStatus scanner reader payload with
            | .ok status => .ok status
            | .error e =>
                if e.kind = .deadManStateDecodeError then
                  storeFailure s!"corrupt dead-man state file: {e.message}"
                else .error e

/-- `encode_deadman_status(status).encode("utf-8")` within the size limit. -/
def serialise (status : DeadManStatus) : Fallible (List Utf8.Byte) := do
  let payload ← encodeDeadmanStatus status
  match Utf8.encode .strict payload with
  | none => raise .unicodeEncodeError ""
  | some data =>
      if maxStateBytes < data.length then
        storeFailure "serialized dead-man state exceeds the bounded size limit"
      else .ok data

/-- The ids pending in the file. -/
def pendingIds (file : StateFile) : List Int :=
  match loadFile scanner reader file with
  | .ok status => notificationIds status.pendingNotifications
  | .error _ => []

variable {scanner reader}

theorem loadFile_none : loadFile scanner reader none = .ok DeadManStatus.initial := rfl

theorem serialise_eq_ok {status : DeadManStatus} {data : List Utf8.Byte} :
    serialise status = .ok data ↔ exists payload, encodeDeadmanStatus status = .ok payload ∧
      Utf8.encode .strict payload = some data ∧ data.length ≤ maxStateBytes := by
  rw [serialise, bind_eq_ok]
  constructor
  · rintro ⟨payload, encoded, result⟩
    split at result
    · cases result
    · rename_i bytes written
      split at result
      · cases result
      · rename_i small
        cases result
        exact ⟨payload, encoded, written, Nat.le_of_not_lt small⟩
  · rintro ⟨payload, encoded, written, small⟩
    refine ⟨payload, encoded, ?_⟩
    simp only [written, if_neg (Nat.not_lt.mpr small)]

/-- The encoder writes ASCII, which UTF-8 can always express. -/
theorem encoded_ascii {status : DeadManStatus} {payload : PyStr}
    (encoded : encodeDeadmanStatus status = .ok payload) : Json.Ascii payload := by
  rcases encode_eq_ok.mp encoded with ⟨document, built, rfl⟩
  rcases encodeDocument_eq_ok.mp built with ⟨anchor, times, first, second, rfl⟩
  exact Json.ascii_render (Json.fits_sortKeys
    (fits_statusDocument 0 _ (encodeAnchor_spec first).2.1 (encodeTimes_spec second).2.1))

theorem encode_raises (status : DeadManStatus) :
    RaisesOnly (· = .overflowError) (encodeDeadmanStatus status) := by
  have datetime : forall value, RaisesOnly (· = .overflowError) (encodeDatetime value) := by
    intro value
    refine .bind ?_ fun _ _ => .ok _
    unfold DateTime.astimezoneUtc
    split
    · exact .ok _
    · exact .raise _ (Eq.refl _)
  have anchor : RaisesOnly (· = .overflowError) (encodeAnchor status.stateChangedAt) := by
    cases status.stateChangedAt with
    | none => exact .ok _
    | some value => exact .bind (datetime value) fun _ _ => .ok _
  have times : forall notifications : List DeadManNotification,
      RaisesOnly (· = .overflowError) (encodeTimes notifications) := by
    intro notifications
    induction notifications with
    | nil => exact .ok _
    | cons head tail inductionHypothesis =>
        exact .bind (datetime _) fun _ _ => .bind inductionHypothesis fun _ _ => .ok _
  exact .bind (.bind anchor fun _ _ => .bind (times _) fun _ _ => .ok _) fun _ _ => .ok _

/-- Serialising fails on a timestamp without a UTC value or on the size, never
on the characters of the document. -/
theorem serialise_raises (status : DeadManStatus) :
    RaisesOnly (fun kind => kind = .overflowError ∨ kind = .deadManStateStoreError)
      (serialise status) := by
  refine .bind ((encode_raises status).mono fun _ => Or.inl) fun payload encoded => ?_
  rcases Utf8.encode_ascii (encoded_ascii encoded) with ⟨data, written⟩
  split
  · rename_i impossible
    rw [written] at impossible
    cases impossible
  · split
    · exact .raise _ (Or.inr rfl)
    · exact .ok _

/-- What was serialised is loaded as the same snapshot, dated in UTC. -/
theorem loadFile_serialise {status : DeadManStatus} {data : List Utf8.Byte}
    (serialised : serialise status = .ok data) :
    loadFile scanner reader (some data) = .ok status.inUtc := by
  rcases serialise_eq_ok.mp serialised with ⟨payload, encoded, written, small⟩
  have whole : data.take (maxStateBytes + 1) = data :=
    List.take_of_length_le (Nat.le_succ_of_le small)
  simp only [loadFile, whole, if_neg (Nat.not_lt.mpr small), Utf8.decode_encode written,
    decode_encode scanner reader encoded]

theorem pendingIds_of_load {file : StateFile} {status : DeadManStatus}
    (loaded : loadFile scanner reader file = .ok status) :
    pendingIds scanner reader file =
      status.toStatusFields.content.pending.map IntentContent.notificationId := by
  rw [pendingIds, loaded, StatusFields.content, List.map_map]
  rfl

end Access

end DeadMan
end HermesSentinel
