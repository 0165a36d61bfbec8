import HermesSentinel.Foundation.Cleanup
import Mathlib.Data.List.Basic

namespace Foundation

/-!
# Calls that other calls release

A program performs calls, each of which may fail.  Some calls acquire something
that another call releases.  A run is disciplined if it performs its calls in
their order up to the first that fails and then releases what it has acquired,
newest first and each of it once.

The calls and what happens to them are written to a log.  `Does` is the
specification of a part of a program by the calls it performs, and its rules
follow the constructs that clean up.
-/

/-- A call, with what it raised if it failed. -/
structure Attempted (γ ε : Type) where
  call : γ
  failure : Option ε

def succeeded {γ ε : Type} (calls : List γ) : List (Attempted γ ε) :=
  calls.map fun call => ⟨call, none⟩

theorem succeeded_append {γ ε : Type} (first second : List γ) :
    (succeeded (first ++ second) : List (Attempted γ ε)) = succeeded first ++ succeeded second :=
  List.map_append

theorem calls_succeeded {γ ε : Type} (calls : List γ) :
    (succeeded calls : List (Attempted γ ε)).map Attempted.call = calls := by
  rw [succeeded, List.map_map]
  exact List.map_id calls

structure Discipline (γ : Type) where
  /-- The call that releases what this one acquires. -/
  release : γ -> Option γ
  /-- Whether a failure of the second call, made to clean up after the first,
  escapes in the place of a failure that is already escaping. -/
  surfaces : γ -> γ -> Bool

namespace Discipline

variable {γ ε : Type} (discipline : Discipline γ)

/-- The releases of what the calls acquire, newest first. -/
def releases (calls : List γ) : List γ :=
  calls.reverse.filterMap discipline.release

theorem releases_append (first second : List γ) :
    discipline.releases (first ++ second) = discipline.releases second ++ discipline.releases first := by
  rw [releases, List.reverse_append, List.filterMap_append]
  rfl

/-- What escapes after one more call that cleans up. -/
def afterRelease (loud : γ -> Bool) (pending : Option ε) (release : Attempted γ ε) : Option ε :=
  match release.failure with
  | none => pending
  | some e => if loud release.call = true then some e else pending.or (some e)

/-- The releases `calls` were made, and turned what escapes from one into the other. -/
def Released (loud : γ -> Bool) (calls : List γ) (pending pending' : Option ε)
    (log log' : List (Attempted γ ε)) : Prop :=
  exists more, log' = log ++ more ∧ more.map Attempted.call = calls ∧
    more.foldl (afterRelease loud) pending = pending'

theorem Released.one {loud : γ -> Bool} (call : γ) (failure pending : Option ε)
    (log : List (Attempted γ ε)) :
    Released loud [call] pending (afterRelease loud pending ⟨call, failure⟩) log
      (log ++ [⟨call, failure⟩]) :=
  ⟨[⟨call, failure⟩], rfl, rfl, rfl⟩

theorem Released.trans {loud : γ -> Bool} {calls calls' : List γ} {first second third : Option ε}
    {log log' log'' : List (Attempted γ ε)} (left : Released loud calls first second log log')
    (right : Released loud calls' second third log' log'') :
    Released loud (calls ++ calls') first third log log'' := by
  rcases left with ⟨more, rfl, balanced, escapes⟩
  rcases right with ⟨more', rfl, balanced', escapes'⟩
  refine ⟨more ++ more', List.append_assoc log more more', ?_, ?_⟩
  · rw [List.map_append, balanced, balanced']
  · rw [List.foldl_append, escapes, escapes']

/-- Releases that are not heard leave what escapes. -/
theorem foldl_quiet (e : ε) (released : List (Attempted γ ε)) :
    released.foldl (afterRelease fun _ => false) (some e) = some e := by
  induction released with
  | nil => rfl
  | cons first rest inductionHypothesis =>
      rw [List.foldl_cons]
      cases failure : first.failure with
      | none => simpa [afterRelease, failure] using inductionHypothesis
      | some _ => simpa [afterRelease, failure] using inductionHypothesis

/-- What escapes when the releases are done. -/
def escaping (reached : γ) (failure : Option ε) (released : List (Attempted γ ε)) : Option ε :=
  released.foldl (afterRelease (discipline.surfaces reached)) failure

/-- Nothing escapes if nothing has failed. -/
theorem foldl_eq_none {loud : γ -> Bool} {pending : Option ε} {released : List (Attempted γ ε)} :
    released.foldl (afterRelease loud) pending = none ↔
      pending = none ∧ forall attempted, attempted ∈ released -> attempted.failure = none := by
  induction released generalizing pending with
  | nil => simp
  | cons first rest inductionHypothesis =>
      rw [List.foldl_cons, inductionHypothesis]
      rcases first with ⟨call, failure⟩
      cases failure with
      | none => simp [afterRelease]
      | some e =>
          cases heard : loud call <;> cases pending <;> simp [afterRelease, heard]

/-- What escapes was raised by a call. -/
theorem foldl_eq_some {loud : γ -> Bool} {pending : Option ε} {released : List (Attempted γ ε)} {e : ε}
    (escapes : released.foldl (afterRelease loud) pending = some e) :
    pending = some e ∨ exists attempted, attempted ∈ released ∧ attempted.failure = some e := by
  induction released generalizing pending with
  | nil => exact .inl escapes
  | cons first rest inductionHypothesis =>
      rcases inductionHypothesis escapes with before | ⟨attempted, member, raised⟩
      · rcases first with ⟨call, failure⟩
        cases failure with
        | none => exact .inl before
        | some e' =>
            have raised : pending = some e ∨ some e' = some e := by
              cases heard : loud call <;> cases pending <;> simp_all [afterRelease]
            rcases raised with earlier | own
            · exact .inl earlier
            · exact .inr ⟨_, List.mem_cons_self, own⟩
      · exact .inr ⟨attempted, List.mem_cons_of_mem first member, raised⟩

/-- After `start`, the calls `done` succeeded and `reached` was the last. -/
structure Run (start calls : List γ) (done : List γ) (reached : γ) (failure : Option ε)
    (released : List (Attempted γ ε)) (log : List (Attempted γ ε)) : Prop where
  listed : done ++ [reached] <+: calls
  /-- Only the last call may have failed, and no release comes before it. -/
  log : log = succeeded (start ++ done) ++ ⟨reached, failure⟩ :: released
  complete : failure = none -> calls = done ++ [reached]
  /-- What was acquired is released, newest first, whether or not a release fails. -/
  balanced : released.map Attempted.call = discipline.releases done

/-- The calls broke off at one that failed, were cleaned up after, and this escapes. -/
def Broken (start calls : List γ) (e : ε) (log : List (Attempted γ ε)) : Prop :=
  exists done reached failure released,
    discipline.Run start calls done reached (some failure) released log ∧
      discipline.escaping reached (some failure) released = some e

/-- The calls came to their end, or broke off, and this escapes. -/
def Ended (start calls : List γ) (pending : Option ε) (log : List (Attempted γ ε)) : Prop :=
  exists done reached failure released,
    discipline.Run start calls done reached failure released log ∧
      discipline.escaping reached failure released = pending

section

variable {discipline} {start first rest done calls : List γ} {reached : γ}
  {failure pending : Option ε} {released log : List (Attempted γ ε)} {e : ε}

/-- The first call that fails. -/
theorem Broken.stopped (call : γ) :
    discipline.Broken start (call :: rest) e (succeeded start ++ [⟨call, some e⟩]) := by
  refine ⟨[], call, e, [], ?_, rfl⟩
  constructor
  case listed => exact List.prefix_append [call] rest
  case log => rw [List.append_nil]
  case complete =>
    intro impossible
    cases impossible
  case balanced => rfl

/-- The first calls break off as they would alone. -/
theorem Broken.shortened (broken : discipline.Broken start first e log) :
    discipline.Broken start (first ++ rest) e log := by
  rcases broken with ⟨done, reached, failure, released, run, escapes⟩
  refine ⟨done, reached, failure, released, ?_, escapes⟩
  constructor
  case listed => exact run.listed.trans (List.prefix_append first rest)
  case log => exact run.log
  case complete =>
    intro impossible
    cases impossible
  case balanced => exact run.balanced

/-- A run of the rest is one of all, once what came first is released as well. -/
theorem Run.after (run : discipline.Run (start ++ first) rest done reached failure released log)
    {more : List (Attempted γ ε)} (balanced : more.map Attempted.call = discipline.releases first) :
    discipline.Run start (first ++ rest) (first ++ done) reached failure (released ++ more)
      (log ++ more) := by
  constructor
  case listed =>
    rw [List.append_assoc]
    exact (List.prefix_append_right_inj first).mpr run.listed
  case log =>
    rw [run.log, List.append_assoc, List.append_assoc]
    rfl
  case complete =>
    intro none
    rw [run.complete none, List.append_assoc]
  case balanced => rw [List.map_append, run.balanced, balanced, releases_append]

theorem Broken.ended (broken : discipline.Broken start calls e log) :
    discipline.Ended start calls (some e) log := by
  rcases broken with ⟨done, reached, failure, released, run, escapes⟩
  exact ⟨done, reached, some failure, released, run, escapes⟩

/-- The last call, whether or not it fails. -/
theorem Ended.last (call : γ) (failure : Option ε) :
    discipline.Ended start [call] failure (succeeded start ++ [⟨call, failure⟩]) := by
  refine ⟨[], call, failure, [], ?_, rfl⟩
  constructor
  case listed => exact List.prefix_rfl
  case log => rw [List.append_nil]
  case complete =>
    intro _
    rfl
  case balanced => rfl

theorem Run.reached_mem (run : discipline.Run start calls done reached failure released log) :
    reached ∈ calls :=
  run.listed.subset (List.mem_append_right done (List.mem_singleton.mpr rfl))

/-- Calls that acquire nothing may come before a run. -/
theorem Run.before (run : discipline.Run (start ++ first) rest done reached failure released log)
    (nothing : discipline.releases first = []) :
    discipline.Run start (first ++ rest) (first ++ done) reached failure released log := by
  have nothingMore : ([] : List (Attempted γ ε)).map Attempted.call = discipline.releases first :=
    nothing.symm
  have whole := run.after nothingMore
  rw [List.append_nil, List.append_nil] at whole
  exact whole

theorem Broken.before (broken : discipline.Broken (start ++ first) rest e log)
    (nothing : discipline.releases first = []) : discipline.Broken start (first ++ rest) e log := by
  rcases broken with ⟨done, reached, failure, released, run, escapes⟩
  exact ⟨first ++ done, reached, failure, released, run.before nothing, escapes⟩

theorem Ended.before (ended : discipline.Ended (start ++ first) rest pending log)
    (nothing : discipline.releases first = []) :
    discipline.Ended start (first ++ rest) pending log := by
  rcases ended with ⟨done, reached, failure, released, run, escapes⟩
  exact ⟨first ++ done, reached, failure, released, run.before nothing, escapes⟩

/-- Which failures to release the first calls surface, whatever call of the rest
was reached. -/
def Heard (discipline : Discipline γ) (loud : γ -> Bool) (first rest : List γ) : Prop :=
  forall reached, reached ∈ rest -> forall release, release ∈ discipline.releases first ->
    discipline.surfaces reached release = loud release

theorem Heard.foldl_eq {loud : γ -> Bool} (heard : Heard discipline loud first rest)
    (member : reached ∈ rest) {more : List (Attempted γ ε)}
    (balanced : more.map Attempted.call = discipline.releases first) (pending : Option ε) :
    more.foldl (afterRelease (discipline.surfaces reached)) pending =
      more.foldl (afterRelease loud) pending := by
  apply List.foldl_ext
  intro pending release occurs
  have made : release.call ∈ discipline.releases first := balanced ▸ List.mem_map_of_mem occurs
  unfold afterRelease
  rw [heard reached member release.call made]

/-- What came first is released after the rest, and may change what escapes. -/
theorem Ended.after {pending' : Option ε} {log' : List (Attempted γ ε)} {loud : γ -> Bool}
    (ended : discipline.Ended (start ++ first) rest pending log)
    (heard : Heard discipline loud first rest)
    (released : Released loud (discipline.releases first) pending pending' log log') :
    discipline.Ended start (first ++ rest) pending' log' := by
  rcases ended with ⟨done, reached, failure, earlier, run, before⟩
  rcases released with ⟨more, rfl, balanced, escapes⟩
  refine ⟨first ++ done, reached, failure, earlier ++ more, run.after balanced, ?_⟩
  unfold escaping at before ⊢
  rw [List.foldl_append, before, heard.foldl_eq run.reached_mem balanced, escapes]

/-- The same where a call of the rest has failed. -/
theorem Broken.after {e' : ε} {log' : List (Attempted γ ε)} {loud : γ -> Bool}
    (broken : discipline.Broken (start ++ first) rest e log)
    (heard : Heard discipline loud first rest)
    (released : Released loud (discipline.releases first) (some e) (some e') log log') :
    discipline.Broken start (first ++ rest) e' log' := by
  rcases broken with ⟨done, reached, failure, earlier, run, before⟩
  rcases released with ⟨more, rfl, balanced, escapes⟩
  refine ⟨first ++ done, reached, failure, earlier ++ more, run.after balanced, ?_⟩
  unfold escaping at before ⊢
  rw [List.foldl_append, before, heard.foldl_eq run.reached_mem balanced, escapes]

end

end Discipline

/-! ## Programs that perform calls -/

/-- A state with the log of the calls that were made. -/
structure Logged (γ ε σ : Type) where
  log : List (Attempted γ ε)
  rest : σ

namespace Program

variable {γ ε σ α β : Type}

/-- A call that fails where the world has it fail, and where it fails by itself. -/
def perform (fails : List (Attempted γ ε) -> γ -> Option ε) (call : γ) (own : Program ε σ α) :
    Program ε (Logged γ ε σ) α := fun w =>
  match fails w.log call with
  | some e => (.error e, { w with log := w.log ++ [⟨call, some e⟩] })
  | none =>
      match own w.rest with
      | (.ok value, rest) => (.ok value, { log := w.log ++ [⟨call, none⟩], rest })
      | (.error e, rest) => (.error e, { log := w.log ++ [⟨call, some e⟩], rest })

/-- What escapes from a program that ended so. -/
def failureOf : Except ε α -> Option ε
  | .ok _ => none
  | .error e => some e

/-- A call that fails by itself or by the world leaves what it was logged with. -/
theorem perform_spec {fails : List (Attempted γ ε) -> γ -> Option ε} {call : γ}
    {own : Program ε σ α} {pre : Logged γ ε σ -> Prop} {post : α -> Logged γ ε σ -> Prop}
    {abort : ε -> Logged γ ε σ -> Prop}
    (returns : forall w value rest, pre w -> own w.rest = (.ok value, rest) ->
      post value ⟨w.log ++ [⟨call, none⟩], rest⟩)
    (raises : forall w e rest, pre w -> rest = w.rest ∨ own w.rest = (.error e, rest) ->
      abort e ⟨w.log ++ [⟨call, some e⟩], rest⟩) :
    Spec pre (perform fails call own) post abort := by
  intro w holds
  unfold perform
  cases fails w.log call with
  | some e => exact raises w e w.rest holds (.inl rfl)
  | none =>
      dsimp only
      rcases ended : own w.rest with ⟨e | value, rest⟩
      · exact raises w e rest holds (.inr ended)
      · exact returns w value rest holds ended

section

variable {discipline : Discipline γ} {start first rest : List γ}

/-- After the calls `start` the program performs `calls` and returns a value with
`returns`, or it breaks off. -/
def Does (discipline : Discipline γ) (start calls : List γ) (returns : α -> Prop)
    (program : Program ε (Logged γ ε σ) α) : Prop :=
  Spec (fun w => w.log = succeeded start) program
    (fun value w => returns value ∧ w.log = succeeded (start ++ calls))
    (fun e w => discipline.Broken start calls e w.log)

/-- The program performs `calls` after `start`, or breaks off, and whatever it has
acquired before it ends is released by then. -/
def Ends (discipline : Discipline γ) (start calls : List γ)
    (program : Program ε (Logged γ ε σ) α) : Prop :=
  Spec (fun w => w.log = succeeded start) program
    (fun _ w => discipline.Ended start calls none w.log)
    (fun e w => discipline.Ended start calls (some e) w.log)

/-- With this escaping, the program performs the releases and nothing else. -/
def Releases (loud : γ -> Bool) (calls : List γ) (pending : Option ε)
    (program : Program ε (Logged γ ε σ) Unit) : Prop :=
  forall log, Spec (fun w => w.log = log) program
    (fun _ w => Discipline.Released loud calls pending pending log w.log)
    (fun e w => Discipline.Released loud calls pending (some e) log w.log)

namespace Does

variable {returns : α -> Prop} {returnsNext : β -> Prop}

theorem pure {value : α} (holds : returns value) :
    Does discipline start [] returns (Pure.pure value : Program ε (Logged γ ε σ) α) := by
  apply Spec.pure
  intro w same
  rw [List.append_nil]
  exact ⟨holds, same⟩

theorem perform (fails : List (Attempted γ ε) -> γ -> Option ε) (call : γ) {own : Program ε σ α}
    (holds : forall s value s', own s = (.ok value, s') -> returns value) :
    Does discipline start [call] returns (Program.perform fails call own) := by
  apply perform_spec
  case returns =>
    intro w value rest same ended
    refine ⟨holds w.rest value rest ended, ?_⟩
    rw [same, succeeded_append]
    rfl
  case raises =>
    intro w e rest same _
    rw [same]
    exact Discipline.Broken.stopped call

theorem shortened {program : Program ε (Logged γ ε σ) α}
    (does : Does discipline start first returns program) :
    Spec (fun w => w.log = succeeded start) program
      (fun value w => returns value ∧ w.log = succeeded (start ++ first))
      (fun e w => discipline.Broken start (first ++ rest) e w.log) :=
  does.mono (fun _ holds => holds) (fun _ _ holds => holds) fun _ _ broken => broken.shortened

theorem opened {program : Program ε (Logged γ ε σ) α}
    (does : Does discipline start first returns program) :
    Spec (fun w => w.log = succeeded start) program
      (fun value w => returns value ∧ w.log = succeeded (start ++ first))
      (fun e w => discipline.Ended start (first ++ rest) (some e) w.log) :=
  does.mono (fun _ holds => holds) (fun _ _ holds => holds) fun _ _ broken => broken.shortened.ended

/-- What was acquired first is released when the rest breaks off. -/
theorem bracket {program : Program ε (Logged γ ε σ) α} {next : α -> Program ε (Logged γ ε σ) β}
    {cleanup : α -> Program ε (Logged γ ε σ) Unit} (loud : γ -> Bool)
    (left : Does discipline start first returns program)
    (right : forall value, returns value ->
      Does discipline (start ++ first) rest returnsNext (next value))
    (cleans : forall value, returns value -> forall e,
      Releases loud (discipline.releases first) (some e) (cleanup value))
    (heard : discipline.Heard loud first rest) :
    Does discipline start (first ++ rest) returnsNext
      (program >>= fun value => (next value).undoing (cleanup value)) := by
  apply Spec.bind left.shortened
  intro value
  apply Spec.given
  intro returned
  have body : Spec (fun w => w.log = succeeded (start ++ first)) (next value)
      (fun other w => returnsNext other ∧ w.log = succeeded (start ++ (first ++ rest)))
      (fun e w => discipline.Broken (start ++ first) rest e w.log) := by
    refine (right value returned).mono (fun w holds => holds) ?_ fun e w broken => broken
    intro other w holds
    rw [<- List.append_assoc]
    exact holds
  apply body.undoing
  intro e w broken
  exact (cleans value returned e w.log).mono (fun _ same => same)
    (fun _ w' released => broken.after heard released)
    (fun e' w' released => broken.after heard released) w rfl

/-- Calls that acquire nothing are followed by more. -/
theorem bind {program : Program ε (Logged γ ε σ) α} {next : α -> Program ε (Logged γ ε σ) β}
    (left : Does discipline start first returns program)
    (right : forall value, returns value ->
      Does discipline (start ++ first) rest returnsNext (next value))
    (nothing : discipline.releases first = []) :
    Does discipline start (first ++ rest) returnsNext (program >>= next) := by
  apply Spec.bind left.shortened
  intro value
  apply Spec.given
  intro returned
  refine (right value returned).mono (fun w holds => holds) ?_ ?_
  · intro other w holds
    rw [<- List.append_assoc]
    exact holds
  · intro e w broken
    exact broken.before nothing

end Does

namespace Releases

variable {loud : γ -> Bool} {pending : Option ε} {calls more : List γ}
  {program cleanup : Program ε (Logged γ ε σ) Unit}

/-- The one release of a resource, with its failure dropped. -/
theorem attempt (fails : List (Attempted γ ε) -> γ -> Option ε) (call : γ)
    (own : Program ε σ Unit) (e : ε) :
    Releases (fun _ => false) [call] (some e)
      (Program.attempt (Program.perform fails call own)) := by
  intro log
  apply Spec.attempt
  apply perform_spec
  case returns =>
    rintro w _ _ rfl _
    exact .one call none (some e) w.log
  case raises =>
    rintro w e' _ rfl _
    exact .one call (some e') (some e) w.log

/-- The one release of a resource, with its failure in the place of another. -/
theorem perform (fails : List (Attempted γ ε) -> γ -> Option ε) (call : γ)
    (own : Program ε σ Unit) (surfaces : loud call = true) :
    Releases loud [call] pending (Program.perform fails call own) := by
  intro log
  apply perform_spec
  case returns =>
    rintro w _ _ rfl _
    exact .one call none pending w.log
  case raises =>
    rintro w e' _ rfl _
    have released := @Discipline.Released.one γ ε loud call (some e') pending w.log
    have heard : Discipline.afterRelease loud pending ⟨call, some e'⟩ = some e' := if_pos surfaces
    rw [heard] at released
    exact released

/-- Two releases, of which the second is made on either way out of the first. -/
theorem ensuring (left : Releases loud calls pending program)
    (right : forall pending, Releases loud more pending cleanup) :
    Releases loud (calls ++ more) pending (program.ensuring cleanup) := by
  intro log
  apply Spec.ensuring (left log)
  case returned =>
    intro _ w released
    exact (right pending w.log).mono (fun _ same => same) (fun _ _ later => released.trans later)
      (fun _ _ later => released.trans later) w rfl
  case interrupted =>
    intro e w released
    exact (right (some e) w.log).mono (fun _ same => same) (fun _ _ later => released.trans later)
      (fun _ _ later => released.trans later) w rfl

end Releases

namespace Ends

variable {returns : α -> Prop}

/-- The last call. -/
theorem perform (fails : List (Attempted γ ε) -> γ -> Option ε) (call : γ) (own : Program ε σ α) :
    Ends discipline start [call] (Program.perform fails call own) := by
  apply perform_spec
  case returns =>
    intro w value rest same _
    rw [same]
    exact Discipline.Ended.last call none
  case raises =>
    intro w e rest same _
    rw [same]
    exact Discipline.Ended.last call (some e)

/-- Calls that acquire nothing are followed by more. -/
theorem bind {program : Program ε (Logged γ ε σ) α} {next : α -> Program ε (Logged γ ε σ) β}
    (left : Does discipline start first returns program)
    (right : forall value, returns value -> Ends discipline (start ++ first) rest (next value))
    (nothing : discipline.releases first = []) :
    Ends discipline start (first ++ rest) (program >>= next) := by
  apply Spec.bind left.opened
  intro value
  apply Spec.given
  intro returned
  exact (right value returned).mono (fun _ same => same) (fun _ _ ended => ended.before nothing)
    fun _ _ ended => ended.before nothing

/-- What was acquired first is released when the rest has ended, by one cleanup
where it broke off and by another where it returned. -/
theorem settling {program : Program ε (Logged γ ε σ) α} {next : α -> Program ε (Logged γ ε σ) β}
    {broken finished : α -> Program ε (Logged γ ε σ) Unit} (loud : γ -> Bool)
    (left : Does discipline start first returns program)
    (right : forall value, returns value -> Ends discipline (start ++ first) rest (next value))
    (cleansBroken : forall value, returns value -> forall e,
      Releases loud (discipline.releases first) (some e) (broken value))
    (cleans : forall value, returns value ->
      Releases loud (discipline.releases first) none (finished value))
    (heard : discipline.Heard loud first rest) :
    Ends discipline start (first ++ rest) (program >>= fun value => do
      let other ← (next value).undoing (broken value)
      finished value
      Pure.pure other) := by
  apply Spec.bind left.opened
  intro value
  apply Spec.given
  intro returned
  apply Spec.bind
  case left =>
    apply Spec.undoing (right value returned)
    intro e w ended
    exact (cleansBroken value returned e w.log).mono (fun _ same => same)
      (fun _ _ released => ended.after heard released)
      (fun _ _ released => ended.after heard released) w rfl
  case right =>
    intro other
    apply Spec.bind
    case left =>
      intro w ended
      exact (cleans value returned w.log).mono (fun _ same => same)
        (fun _ _ released => ended.after heard released)
        (fun _ _ released => ended.after heard released) w rfl
    case right =>
      intro _
      exact Spec.pure fun _ ended => ended

end Ends

end

end Program

/-! ## What the calls do to a state -/

section

variable {γ ε σ : Type} (act : γ -> σ -> σ)

/-- What the calls that did not fail have made of a state. -/
def replay (s : σ) (log : List (Attempted γ ε)) : σ :=
  log.foldl (fun s attempted =>
    match attempted.failure with
    | none => act attempted.call s
    | some _ => s) s

theorem replay_append (s : σ) (first second : List (Attempted γ ε)) :
    replay act s (first ++ second) = replay act (replay act s first) second :=
  List.foldl_append

/-- From here on each call leaves the state alone, or its release restores it. -/
def Reversible (discipline : Discipline γ) : σ -> List γ -> Prop
  | _, [] => True
  | s, call :: rest =>
      (match discipline.release call with
        | none => act call s = s
        | some release => act release (act call s) = s) ∧
      Reversible discipline (act call s) rest

variable {act} {discipline : Discipline γ}

theorem Reversible.of_append {s : σ} {first second : List γ}
    (reversible : Reversible act discipline s (first ++ second)) :
    Reversible act discipline s first := by
  induction first generalizing s with
  | nil => trivial
  | cons call rest inductionHypothesis =>
      exact ⟨reversible.1, inductionHypothesis reversible.2⟩

theorem replay_succeeded (s : σ) (calls : List γ) :
    replay act s (succeeded calls : List (Attempted γ ε)) = calls.foldl (fun s call => act call s) s := by
  simp [replay, succeeded, List.foldl_map]

/-- Where only calls that do nothing have failed, the calls tell what happened. -/
theorem replay_settled {log : List (Attempted γ ε)} (settled : forall attempted, attempted ∈ log ->
      attempted.failure = none ∨ forall s, act attempted.call s = s) (s : σ) :
    replay act s log = (log.map Attempted.call).foldl (fun s call => act call s) s := by
  induction log generalizing s with
  | nil => rfl
  | cons newest rest inductionHypothesis =>
      have following := inductionHypothesis fun attempted member =>
        settled attempted (List.mem_cons_of_mem newest member)
      rcases newest with ⟨call, failure⟩
      cases failure with
      | none => exact following (act call s)
      | some e =>
          rcases settled ⟨call, some e⟩ List.mem_cons_self with impossible | idle
          · cases impossible
          · rw [List.map_cons, List.foldl_cons, idle s]
            exact following s

/-- Releasing what was acquired, newest first, restores the state. -/
theorem Reversible.undone {s : σ} {done : List γ} (reversible : Reversible act discipline s done) :
    (discipline.releases done).foldl (fun s call => act call s)
      (done.foldl (fun s call => act call s) s) = s := by
  induction done generalizing s with
  | nil => rfl
  | cons call rest inductionHypothesis =>
      have restored := inductionHypothesis reversible.2
      rw [List.foldl_cons, <- List.singleton_append, Discipline.releases_append, List.foldl_append,
        restored]
      have own := reversible.1
      cases release : discipline.release call with
      | none =>
          rw [release] at own
          simpa [Discipline.releases, release] using own
      | some undo =>
          rw [release] at own
          simpa [Discipline.releases, release] using own

/-- A run whose releases succeed where they matter leaves the state as it was. -/
theorem Discipline.Run.undone {s : σ} {calls done : List γ} {reached : γ} {failure : Option ε}
    {released log : List (Attempted γ ε)}
    (run : discipline.Run [] calls done reached failure released log)
    (reversible : Reversible act discipline s calls)
    (idle : failure = none -> forall s, act reached s = s)
    (settled : forall attempted, attempted ∈ released ->
      attempted.failure = none ∨ forall s, act attempted.call s = s) :
    replay act s log = s := by
  rcases run.listed with ⟨more, split⟩
  rw [<- split, List.append_assoc] at reversible
  have last (s : σ) : replay act s [⟨reached, failure⟩] = s := by
    cases failure with
    | none => exact idle rfl s
    | some e => rfl
  rw [run.log, <- List.singleton_append, replay_append, replay_append, last,
    replay_settled settled, replay_succeeded, run.balanced]
  exact reversible.of_append.undone

end

end Foundation
