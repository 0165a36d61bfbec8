import HermesSentinel.DeadMan.Resaving
import HermesSentinel.DeadMan.StateStore
import HermesSentinel.Foundation.Register

namespace HermesSentinel
namespace DeadMan

open Python
open Foundation

/-!
# The state file as a register

Any number of saves, each disturbed in its own way, and then a load.  The file
is a register for snapshots: a save that returns is what the next load sees, and
a save that raises leaves no trace in it.
-/

/-- One call of `save`, with what the file system does during it. -/
structure SaveCall where
  status : DeadManStatus
  faults : SaveFaults

def SaveCall.run (call : SaveCall) : FileProgram Unit :=
  DeadManStateStore.save call.faults call.status

/-- The file holds the whole document of a call. -/
def SaveCall.Written (call : SaveCall) (file : StateFile) : Prop :=
  exists data, serialise call.status = .ok data ∧ file = some data

theorem SaveCall.writesWhole (call : SaveCall) :
    Register.WritesWhole SaveCall.run StateDirectory.target SaveCall.Written call := by
  intro old start same
  have ended : Program.Spec (fun d => d = start) call.run (fun _ d => call.Written d.target)
      (fun _ d => d.target = old) := by
    refine (DeadManStateStore.save_spec call.faults call.status start).mono (fun _ unchanged => unchanged)
      ?_ ?_
    · intro _ d done
      rcases done with ⟨data, serialised, target, _⟩
      exact ⟨data, serialised, target⟩
    · intro _ d failed
      exact failed.target.trans same
  exact ended start rfl

section Loading

variable (scanner : JsonScanner) (reader : IsoReader)

/-- The file is loaded as the snapshot, its timestamps compared by instant. -/
def Loads (file : StateFile) (status : DeadManStatus) : Prop :=
  exists loaded, loadFile scanner reader file = .ok loaded ∧
    loaded.toStatusFields.content = status.toStatusFields.content

/-- What the store guarantees, whatever the file system does to its saves. -/
structure AtomicRegister : Prop where
  /-- A load after any saves sees the last that returned, or the file of before. -/
  last : forall (calls : List SaveCall) (start : StateDirectory),
    match (Register.returned SaveCall.run calls start).getLast? with
    | some call =>
        Loads scanner reader (Register.after SaveCall.run calls start).target call.status
    | none =>
        (Register.after SaveCall.run calls start).target = start.target ∧
          (start.target = none ->
            loadFile scanner reader (Register.after SaveCall.run calls start).target =
              .ok DeadManStatus.initial)
  /-- A save that raises leaves the file, and nothing beside it if unlinking works. -/
  raised : forall (call : SaveCall) (start d : StateDirectory) (e : Raised),
    call.run start = (.error e, d) ->
      d.target = start.target ∧ (call.faults.unlinkFails = false -> start.Unchanged d) ∧
        (call.status.toStatusFields.UtcRepresentable -> e.kind = .deadManStateStoreError)
  /-- A save that returns wrote a document that is loaded, and nothing beside it. -/
  returned : forall (call : SaveCall) (start d : StateDirectory),
    call.run start = (.ok (), d) ->
      (exists data, serialise call.status = .ok data ∧ d.target = some data ∧
        data.length ≤ maxStateBytes) ∧
        Loads scanner reader d.target call.status ∧
        Dictionary.Same d.temporaries start.temporaries
  /-- Up to the limit itself every document is saved; a larger one touches nothing. -/
  bounded : forall (call : SaveCall) (start : StateDirectory) (payload : PyStr)
      (data : List Utf8.Byte),
    encodeDeadmanStatus call.status = .ok payload -> Utf8.encode .strict payload = some data ->
      (data.length ≤ maxStateBytes -> call.faults.Absent start -> (call.run start).1 = .ok ()) ∧
        (maxStateBytes < data.length -> exists e, call.run start = (.error e, start) ∧
          e.kind = .deadManStateStoreError)
  /-- The synchronisation of the directory neither fails a save nor changes it. -/
  synchronised : forall (call : SaveCall) (directory : DirectoryFaults),
    SaveCall.run { call with faults := { call.faults with directory := directory } } = call.run

variable {scanner reader}

theorem loads_of_written {call : SaveCall} {file : StateFile} (written : call.Written file) :
    Loads scanner reader file call.status := by
  rcases written with ⟨data, serialised, rfl⟩
  exact ⟨call.status.inUtc, loadFile_serialise serialised, call.status.content_inUtc⟩

/-- Every failure of the store ends a save of the cycle, which raises nothing but
the error of the store. -/
theorem SaveFailure.kind {status : DeadManStatus}
    (representable : status.toStatusFields.UtcRepresentable) {e : Raised}
    (failure : SaveFailure status e) : e.kind = .deadManStateStoreError := by
  have only : forall access, DeadMan.save access status World.initial =
      (.error (.raised e), World.initial) -> e.kind = .deadManStateStoreError := by
    intro access failed
    have onlyStore : Program.Spec (fun _ => True) (DeadMan.save access status) (fun _ _ => True)
        StoreErrorOnly := save_only representable access
    have ended := onlyStore World.initial trivial
    rw [failed] at ended
    exact ended e rfl
  cases failure with
  | unserialised failed =>
      refine only .completes ?_
      rw [DeadMan.save, failed]
      rfl
  | @step access data serialised failed => exact only access (failed World.initial)

theorem atomicRegister_last (calls : List SaveCall) (start : StateDirectory) :
    match (Register.returned SaveCall.run calls start).getLast? with
    | some call =>
        Loads scanner reader (Register.after SaveCall.run calls start).target call.status
    | none =>
        (Register.after SaveCall.run calls start).target = start.target ∧
          (start.target = none ->
            loadFile scanner reader (Register.after SaveCall.run calls start).target =
              .ok DeadManStatus.initial) := by
  have holds := Register.holds_last calls (fun call _ => call.writesWhole) start
  rw [Register.Holds] at holds
  cases last : (Register.returned SaveCall.run calls start).getLast? with
  | some call =>
      rw [last] at holds
      exact loads_of_written holds
  | none =>
      rw [last] at holds
      refine ⟨holds, fun missing => ?_⟩
      rw [show (Register.after SaveCall.run calls start).target = none from holds.trans missing]
      exact loadFile_none

/-- A document is refused exactly for its size. -/
theorem serialise_bounded {status : DeadManStatus} {payload : PyStr} {data : List Utf8.Byte}
    (encoded : encodeDeadmanStatus status = .ok payload)
    (written : Utf8.encode .strict payload = some data) :
    serialise status =
      if maxStateBytes < data.length then
        storeFailure "serialized dead-man state exceeds the bounded size limit"
      else .ok data := by
  rw [serialise, encoded, ok_bind, written]

/-- The state store is an atomic register. -/
theorem state_store_atomic : AtomicRegister scanner reader := by
  constructor
  · exact atomicRegister_last
  · intro call start d e raised
    have ended := DeadManStateStore.save_spec call.faults call.status start start rfl
    rw [show DeadManStateStore.save call.faults call.status start = (.error e, d) from raised]
      at ended
    exact ⟨ended.target, ended.clean, fun representable => ended.failure.kind representable⟩
  · intro call start d returned
    have ended := DeadManStateStore.save_spec call.faults call.status start start rfl
    rw [show DeadManStateStore.save call.faults call.status start = (.ok (), d) from returned]
      at ended
    rcases ended with ⟨data, serialised, target, same⟩
    have small := (serialise_eq_ok.mp serialised).choose_spec.2.2
    exact ⟨⟨data, serialised, target, small⟩, loads_of_written ⟨data, serialised, target⟩, same⟩
  · intro call start payload data encoded written
    have serialised := serialise_bounded encoded written
    constructor
    · intro small absent
      rw [if_neg (Nat.not_lt.mpr small)] at serialised
      exact save_completes absent serialised
    · intro large
      rw [if_pos large] at serialised
      rw [SaveCall.run, DeadManStateStore.save, serialised]
      exact ⟨_, rfl, rfl⟩
  · intro call directory
    exact save_directory call.faults directory call.status

end Loading

end DeadMan
end HermesSentinel
