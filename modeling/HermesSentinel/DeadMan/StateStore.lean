import HermesSentinel.DeadMan.Cycle
import HermesSentinel.Foundation.Dictionary

namespace HermesSentinel
namespace DeadMan

open Python
open Foundation

/-!
# The state store on its directory

`DeadManStateStore.save` step by step: a temporary file beside the state file
is created, written and renamed, and any of these accesses may fail.  The cycle
knows only how a save ends; `save_refines` says that it ends in one of the ways
the cycle reckons with.
-/

/-- The directory of the state file, with the temporary files of the store. -/
structure StateDirectory where
  target : StateFile
  temporaries : Dictionary PyStr (List Utf8.Byte)

/-- How writing bytes ends: with all of them, or after so many with an error. -/
inductive Transfer
  | completes
  | fails (reached : Nat)

/-- How the accesses to the directory itself end. -/
structure DirectoryFaults where
  /-- The platform has `O_DIRECTORY`. -/
  supported : Bool
  openFails : Bool
  fsyncFails : Bool
  closeFails : Bool

/-- How the accesses of one `save` end. -/
structure SaveFaults where
  /-- The unused name `mkstemp` chooses, if it can create a file. -/
  created : Option PyStr
  fdopenFails : Bool
  write : Transfer
  flush : Transfer
  fsyncFails : Bool
  closeFails : Bool
  replaceFails : Bool
  unlinkFails : Bool
  directory : DirectoryFaults

abbrev FileProgram (α : Type) := Program Raised StateDirectory α

def osFailure : Raised where
  kind := .osError

def systemCall (fails : Bool) : FileProgram Unit :=
  if fails = true then Program.interrupt osFailure else pure ()

/-- `try: program except OSError: handler`. -/
def catchOSError {α : Type} (program handler : FileProgram α) : FileProgram α :=
  program.handle fun e => if e.kind = .osError then some handler else none

/-- `tempfile.mkstemp`, which never opens a file that is there. -/
def mkstemp (created : Option PyStr) : FileProgram PyStr := do
  match created with
  | none => Program.interrupt osFailure
  | some name => do
      let directory ← Program.read
      if (directory.temporaries.get name).isSome = true then Program.interrupt osFailure
      else do
        Program.update fun d => { d with temporaries := d.temporaries.assign name [] }
        pure name

def putTemporary (name : PyStr) (content : List Utf8.Byte) : FileProgram Unit :=
  Program.update fun d => { d with temporaries := d.temporaries.assign name content }

/-- A write to the temporary file; the buffer is on disk once it is flushed. -/
def transfer (name : PyStr) (data : List Utf8.Byte) (flushed : Bool) : Transfer -> FileProgram Unit
  | .completes => if flushed = true then putTemporary name data else pure ()
  | .fails reached => do
      putTemporary name (data.take reached)
      Program.interrupt osFailure

/-- The `with` block on the temporary file. -/
def writeTemporary (faults : SaveFaults) (name : PyStr) (data : List Utf8.Byte) :
    FileProgram Unit := do
  systemCall faults.fdopenFails
  transfer name data false faults.write
  transfer name data true faults.flush
  systemCall faults.fsyncFails
  systemCall faults.closeFails

/-- `_remove_quietly`. -/
def removeQuietly (faults : SaveFaults) (name : PyStr) : FileProgram Unit :=
  catchOSError
    (do
      systemCall faults.unlinkFails
      Program.update fun d => { d with temporaries := d.temporaries.erase name })
    (pure ())

/-- `os.replace` of the target by the temporary file. -/
def replaceTarget (faults : SaveFaults) (name : PyStr) : FileProgram Unit := do
  systemCall faults.replaceFails
  Program.update fun d =>
    { target := d.temporaries.get name, temporaries := d.temporaries.erase name }

/-- `_sync_directory_best_effort`. -/
def syncDirectoryBestEffort (faults : DirectoryFaults) : FileProgram Unit := do
  if faults.supported = false then pure ()
  else do
    let opened ← catchOSError
      (do
        systemCall faults.openFails
        pure true)
      (pure false)
    if opened = false then pure ()
    else do
      catchOSError (systemCall faults.fsyncFails) (pure ())
      catchOSError (systemCall faults.closeFails) (pure ())

namespace DeadManStateStore

/-- `DeadManStateStore.save`. -/
def save (faults : SaveFaults) (status : DeadManStatus) : FileProgram Unit := do
  let data ← Program.lift (serialise status)
  let name ← catchOSError (mkstemp faults.created)
    (Program.lift (storeFailure "cannot create a temporary dead-man state file"))
  catchOSError (writeTemporary faults name data) (do
    removeQuietly faults name
    Program.lift (storeFailure "cannot write the temporary dead-man state file"))
  catchOSError (replaceTarget faults name) (do
    removeQuietly faults name
    Program.lift (storeFailure "cannot atomically replace the dead-man state file"))
  syncDirectoryBestEffort faults.directory

end DeadManStateStore

theorem catchOSError_spec {α : Type} {pre middle : StateDirectory -> Prop}
    {post : α -> StateDirectory -> Prop} {abort : Raised -> StateDirectory -> Prop}
    {program handler : FileProgram α}
    (body : Program.Spec pre program post fun e d => e.kind = .osError ∧ middle d)
    (handled : Program.Spec middle handler post abort) :
    Program.Spec pre (catchOSError program handler) post abort := by
  refine Program.Spec.handle body ?_ ?_
  · intro e next chosen d failed
    rw [if_pos failed.1] at chosen
    cases chosen
    exact handled d failed.2
  · intro e passed d failed
    rw [if_pos failed.1] at passed
    cases passed

theorem systemCall_spec {pre : StateDirectory -> Prop} (fails : Bool) :
    Program.Spec pre (systemCall fails) (fun _ d => fails = false ∧ pre d)
      (fun e d => e.kind = .osError ∧ fails = true ∧ pre d) := by
  cases fails with
  | true => exact .interrupt fun d holds => ⟨rfl, rfl, holds⟩
  | false => exact .pure fun d holds => ⟨rfl, holds⟩

/-- The directory with one temporary file more. -/
structure StateDirectory.With (start : StateDirectory) (name : PyStr) (content : List Utf8.Byte)
    (d : StateDirectory) : Prop where
  fresh : start.temporaries.get name = none
  target : d.target = start.target
  temporaries : forall other,
    d.temporaries.get other = if name = other then some content else start.temporaries.get other

/-- The same directory, in whatever order its temporary files are listed. -/
structure StateDirectory.Unchanged (start d : StateDirectory) : Prop where
  target : d.target = start.target
  temporaries : Dictionary.Same d.temporaries start.temporaries

namespace StateDirectory.With

variable {start d : StateDirectory} {name : PyStr} {content : List Utf8.Byte}

/-- Without its temporary file the directory holds the files it held before. -/
theorem get_erase (present : start.With name content d) :
    Dictionary.Same (d.temporaries.erase name) start.temporaries := by
  intro other
  rw [Dictionary.get_erase, present.temporaries other]
  by_cases same : name = other
  · rw [if_pos same, <- same, present.fresh]
  · rw [if_neg same, if_neg same]

theorem get_own (present : start.With name content d) :
    d.temporaries.get name = some content := by
  rw [present.temporaries name, if_pos rfl]

theorem overwrite (present : start.With name content d) (written : List Utf8.Byte) :
    start.With name written { d with temporaries := d.temporaries.assign name written } where
  fresh := present.fresh
  target := present.target
  temporaries other := by
    rw [Dictionary.get_assign, present.temporaries other]
    by_cases same : name = other
    · rw [if_pos same, if_pos same]
    · rw [if_neg same, if_neg same, if_neg same]

end StateDirectory.With

theorem mkstemp_spec (start : StateDirectory) (created : Option PyStr) :
    Program.Spec (fun d => d = start) (mkstemp created) (fun name d => start.With name [] d)
      (fun e d => e.kind = .osError ∧ d = start) := by
  cases created with
  | none => exact .interrupt fun d unchanged => ⟨rfl, unchanged⟩
  | some name =>
      have looked : Program.Spec (fun d => d = start) (Program.read : FileProgram StateDirectory)
          (fun directory d => directory = start ∧ d = start)
          (fun e d => e.kind = .osError ∧ d = start) :=
        .read fun d unchanged => ⟨unchanged, unchanged⟩
      refine .bind looked fun directory => ?_
      by_cases used : (directory.temporaries.get name).isSome = true
      · simp only [if_pos used]
        exact .interrupt fun d same => ⟨rfl, same.2⟩
      · simp only [if_neg used]
        have made : Program.Spec (fun d => directory = start ∧ d = start)
            (Program.update fun d : StateDirectory =>
              { d with temporaries := d.temporaries.assign name [] })
            (fun _ d => start.With name [] d) (fun (e : Raised) d => e.kind = .osError ∧ d = start) := by
          refine .update fun d same => ?_
          cases same.1
          cases same.2
          exact ⟨Option.not_isSome_iff_eq_none.mp used, rfl,
            Dictionary.get_assign start.temporaries name []⟩
        exact .bind made fun _ => .pure fun d present => present

section Writing

variable {start : StateDirectory} {name : PyStr} {content : List Utf8.Byte}

theorem transfer_spec (data : List Utf8.Byte) (flushed : Bool) (access : Transfer) :
    Program.Spec (start.With name content) (transfer name data flushed access)
      (fun _ => start.With name (if flushed = true then data else content))
      (fun e d => e.kind = .osError ∧ exists reached, start.With name reached d) := by
  cases access with
  | completes =>
      cases flushed with
      | true => exact .update fun d present => present.overwrite data
      | false => exact .pure fun d present => present
  | fails reached =>
      have put : Program.Spec (start.With name content) (putTemporary name (data.take reached))
          (fun _ => start.With name (data.take reached))
          (fun e d => e.kind = .osError ∧ exists reached, start.With name reached d) :=
        .update fun d present => present.overwrite _
      exact .bind put fun _ => .interrupt fun d present => ⟨rfl, _, present⟩

/-- A call that fails leaves the temporary file with what it had. -/
theorem systemCall_with (fails : Bool) :
    Program.Spec (start.With name content) (systemCall fails) (fun _ => start.With name content)
      (fun e d => e.kind = .osError ∧ exists reached, start.With name reached d) :=
  (systemCall_spec fails).mono (fun _ present => present) (fun _ _ done => done.2)
    fun _ _ failed => ⟨failed.1, _, failed.2.2⟩

theorem writeTemporary_spec (faults : SaveFaults) (data : List Utf8.Byte) :
    Program.Spec (start.With name content) (writeTemporary faults name data)
      (fun _ => start.With name data)
      (fun e d => e.kind = .osError ∧ exists reached, start.With name reached d) :=
  .bind (systemCall_with faults.fdopenFails) fun _ =>
    .bind (transfer_spec data false faults.write) fun _ =>
      .bind (transfer_spec data true faults.flush) fun _ =>
        .bind (systemCall_with faults.fsyncFails) fun _ => systemCall_with faults.closeFails

/-- The cleanup never raises; where unlinking works the directory is as before. -/
theorem removeQuietly_spec (faults : SaveFaults) :
    Program.Spec (fun d => exists reached, start.With name reached d) (removeQuietly faults name)
      (fun _ d => d.target = start.target ∧ (faults.unlinkFails = false -> start.Unchanged d))
      (fun _ _ => False) := by
  have unlinked : Program.Spec (fun d => exists reached, start.With name reached d)
      (do
        systemCall faults.unlinkFails
        Program.update fun d => { d with temporaries := d.temporaries.erase name })
      (fun _ d => d.target = start.target ∧ (faults.unlinkFails = false -> start.Unchanged d))
      (fun e d => e.kind = .osError ∧ (d.target = start.target ∧ faults.unlinkFails = true)) := by
    refine .bind ((systemCall_spec faults.unlinkFails).mono (fun _ present => present)
      (fun _ _ done => done.2) ?_) fun _ => .update ?_
    · intro e d failed
      rcases failed.2.2 with ⟨reached, present⟩
      exact ⟨failed.1, present.target, failed.2.1⟩
    · intro d present
      rcases present with ⟨reached, present⟩
      exact ⟨present.target, fun _ => ⟨present.target, present.get_erase⟩⟩
  refine catchOSError_spec unlinked (.pure ?_)
  intro d kept
  refine ⟨kept.1, fun works => ?_⟩
  rw [works] at kept
  cases kept.2

theorem replaceTarget_spec (faults : SaveFaults) :
    Program.Spec (start.With name content) (replaceTarget faults name)
      (fun _ d => d.target = some content ∧ Dictionary.Same d.temporaries start.temporaries)
      (fun e d => e.kind = .osError ∧ exists reached, start.With name reached d) :=
  .bind (systemCall_with faults.replaceFails) fun _ =>
    .update fun _ present => ⟨present.get_own, present.get_erase⟩

end Writing

/-- Whatever happens to the directory, its synchronisation returns and changes nothing. -/
theorem syncDirectoryBestEffort_eq (faults : DirectoryFaults) (d : StateDirectory) :
    syncDirectoryBestEffort faults d = (.ok (), d) := by
  rcases faults with ⟨supported, openFails, fsyncFails, closeFails⟩
  cases supported with
  | false => rfl
  | true =>
      cases openFails with
      | true => rfl
      | false =>
          cases fsyncFails with
          | true => cases closeFails <;> rfl
          | false => cases closeFails <;> rfl


/-! ## What a save does -/

/-- With what a save fails: the error of the encoding, or the store's own at
one of its three steps. -/
inductive SaveFailure (status : DeadManStatus) : Raised -> Prop
  | unserialised {e : Raised} (failed : serialise status = .error e) : SaveFailure status e
  | step {e : Raised} {access : WriteAccess} {data : List Utf8.Byte}
      (serialised : serialise status = .ok data)
      (failed : forall w, DeadMan.save access status w = (.error (.raised e), w)) :
      SaveFailure status e

/-- A failed save: the old file is there, and nothing else where unlinking works. -/
structure SaveAborted (faults : SaveFaults) (status : DeadManStatus) (start : StateDirectory)
    (e : Raised) (d : StateDirectory) : Prop where
  failure : SaveFailure status e
  target : d.target = start.target
  clean : faults.unlinkFails = false -> start.Unchanged d

section Steps

variable {faults : SaveFaults} {status : DeadManStatus} {start : StateDirectory}

theorem StateDirectory.Unchanged.refl : start.Unchanged start :=
  ⟨rfl, fun _ => rfl⟩

/-- A step that fails is reported after the cleanup. -/
theorem removed_aborts {name : PyStr} {message : String} {post : Unit -> StateDirectory -> Prop}
    (failure : forall e, (storeFailure message : Fallible Unit) = .error e -> SaveFailure status e) :
    Program.Spec (fun d => exists reached, start.With name reached d)
      (do
        removeQuietly faults name
        Program.lift (storeFailure message))
      post (SaveAborted faults status start) := by
  refine .bind ((removeQuietly_spec faults).mono (fun _ present => present) (fun _ _ done => done)
    fun _ _ impossible => impossible.elim) fun _ => ?_
  refine .lift (fun _ returned => nomatch returned) ?_
  intro e raised d kept
  exact ⟨failure e raised, kept.1, kept.2⟩

namespace DeadManStateStore

variable (faults : SaveFaults) (status : DeadManStatus) (start : StateDirectory)

/-- A save writes the whole document, or it raises and the old file is there. -/
theorem save_spec :
    Program.Spec (fun d => d = start) (save faults status)
      (fun _ d => exists data, serialise status = .ok data ∧ d.target = some data ∧
        Dictionary.Same d.temporaries start.temporaries)
      (SaveAborted faults status start) := by
  have built : Program.Spec (fun d => d = start) (Program.lift (serialise status))
      (fun data d => serialise status = .ok data ∧ d = start) (SaveAborted faults status start) := by
    refine .lift (fun data returned d unchanged => ⟨returned, unchanged⟩) ?_
    intro e failed d unchanged
    cases unchanged
    exact ⟨.unserialised failed, rfl, fun _ => .refl⟩
  refine .bind built fun data => .given fun serialised => ?_
  have coarse : forall access w, DeadMan.save access status w = _ := fun access w =>
    Program.bind_returned (show pythonCall (serialise status) w = (.ok data, w) by
      rw [serialised]
      rfl)
  have named : Program.Spec (fun d => d = start)
      (catchOSError (mkstemp faults.created)
        (Program.lift (storeFailure "cannot create a temporary dead-man state file")))
      (start.With · []) (SaveAborted faults status start) := by
    refine catchOSError_spec (mkstemp_spec start faults.created) ?_
    refine .lift (fun _ returned => nomatch returned) ?_
    intro e raised d unchanged
    cases raised
    cases unchanged
    exact ⟨.step serialised (coarse .createFails), rfl, fun _ => .refl⟩
  refine .bind named fun name => ?_
  have written : Program.Spec (start.With name [])
      (catchOSError (writeTemporary faults name data) (do
        removeQuietly faults name
        Program.lift (storeFailure "cannot write the temporary dead-man state file")))
      (fun _ => start.With name data) (SaveAborted faults status start) := by
    refine catchOSError_spec (writeTemporary_spec faults data) (removed_aborts fun e raised => ?_)
    cases raised
    exact .step serialised (coarse .writeFails)
  refine .bind written fun _ => ?_
  have replaced : Program.Spec (start.With name data)
      (catchOSError (replaceTarget faults name) (do
        removeQuietly faults name
        Program.lift (storeFailure "cannot atomically replace the dead-man state file")))
      (fun _ d => d.target = some data ∧ Dictionary.Same d.temporaries start.temporaries)
      (SaveAborted faults status start) := by
    refine catchOSError_spec (replaceTarget_spec faults) (removed_aborts fun e raised => ?_)
    cases raised
    exact .step serialised (coarse .replaceFails)
  refine .bind replaced fun _ => ?_
  intro d done
  rw [syncDirectoryBestEffort_eq]
  exact ⟨data, serialised, done⟩

end DeadManStateStore
end Steps


/-- The store ends a save in a way the cycle reckons with: with the same result
and the same file. -/
theorem save_refines (faults : SaveFaults) (status : DeadManStatus) (start : StateDirectory) :
    exists access, forall w, w.file = start.target ->
      match DeadManStateStore.save faults status start, DeadMan.save access status w with
      | (.ok (), d), (.ok (), w') => w'.file = d.target
      | (.error e, d), (.error (.raised e'), w') => e = e' ∧ w'.file = d.target
      | _, _ => False := by
  have ended := DeadManStateStore.save_spec faults status start start rfl
  rcases outcome : DeadManStateStore.save faults status start with ⟨e | value, d⟩
  · rw [outcome] at ended
    cases ended.failure with
    | unserialised failed =>
        refine ⟨.completes, fun w same => ?_⟩
        rw [DeadMan.save, failed]
        exact ⟨rfl, same.trans ended.target.symm⟩
    | @step access data serialised failed =>
        refine ⟨access, fun w same => ?_⟩
        rw [failed w]
        exact ⟨rfl, same.trans ended.target.symm⟩
  · rw [outcome] at ended
    rcases ended with ⟨data, serialised, target, _⟩
    refine ⟨.completes, fun w _ => ?_⟩
    rw [DeadMan.save, serialised]
    exact target.symm

/-- No access fails, those to the directory itself apart. -/
structure SaveFaults.Absent (faults : SaveFaults) (start : StateDirectory) : Prop where
  created : exists name, faults.created = some name ∧ start.temporaries.get name = none
  fdopen : faults.fdopenFails = false
  write : faults.write = .completes
  flush : faults.flush = .completes
  fsync : faults.fsyncFails = false
  close : faults.closeFails = false
  replace : faults.replaceFails = false

theorem catchOSError_returned {α : Type} {program handler : FileProgram α} {d d' : StateDirectory}
    {value : α} (returned : program d = (.ok value, d')) :
    catchOSError program handler d = (.ok value, d') := by
  rw [catchOSError, Program.handle, returned]

theorem writeTemporary_returned {faults : SaveFaults} {start : StateDirectory}
    (absent : faults.Absent start) (name : PyStr) (data : List Utf8.Byte) (d : StateDirectory) :
    writeTemporary faults name data d = putTemporary name data d := by
  rw [writeTemporary, absent.fdopen, absent.write, absent.flush, absent.fsync, absent.close]
  rfl

theorem replaceTarget_returned {faults : SaveFaults} {start : StateDirectory}
    (absent : faults.Absent start) (name : PyStr) (d : StateDirectory) :
    exists d', replaceTarget faults name d = (.ok (), d') := by
  rw [replaceTarget, absent.replace]
  exact ⟨_, rfl⟩

/-- Every document within the size limit is saved where nothing fails. -/
theorem save_completes {faults : SaveFaults} {status : DeadManStatus} {start : StateDirectory}
    (absent : faults.Absent start) {data : List Utf8.Byte} (serialised : serialise status = .ok data) :
    (DeadManStateStore.save faults status start).1 = .ok () := by
  rcases absent.created with ⟨name, created, unused⟩
  have made : mkstemp faults.created start =
      (.ok name, { start with temporaries := start.temporaries.assign name [] }) := by
    rw [created]
    have free : ¬ (start.temporaries.get name).isSome = true := by
      rw [unused]
      exact Bool.false_ne_true
    exact (Program.bind_returned (show Program.read start = (.ok start, start) from rfl)).trans
      (by rw [if_neg free]; rfl)
  rw [DeadManStateStore.save, Program.bind_returned (show Program.lift (serialise status) start =
    (.ok data, start) by rw [serialised]; rfl)]
  rw [Program.bind_returned (catchOSError_returned made)]
  rw [Program.bind_returned (catchOSError_returned (writeTemporary_returned absent name data _))]
  rcases replaceTarget_returned absent name { start with
    temporaries := (start.temporaries.assign name []).assign name data } with ⟨d', replaced⟩
  rw [Program.bind_returned (catchOSError_returned replaced)]
  exact congrArg Prod.fst (syncDirectoryBestEffort_eq faults.directory d')

/-- The synchronisation of the directory decides nothing. -/
theorem save_directory (faults : SaveFaults) (directory : DirectoryFaults) (status : DeadManStatus) :
    DeadManStateStore.save { faults with directory := directory } status =
      DeadManStateStore.save faults status := by
  have same : syncDirectoryBestEffort directory = syncDirectoryBestEffort faults.directory := by
    funext d
    rw [syncDirectoryBestEffort_eq, syncDirectoryBestEffort_eq]
  simp only [DeadManStateStore.save, same]
  rfl
end DeadMan
end HermesSentinel
