import HermesSentinel.Python.Float
import HermesSentinel.Python.Text

namespace HermesSentinel
namespace Python

/-!
# Exceptions

A Python call that may raise is a value of `Fallible`.  An exception carries
its class, which decides what an `except` clause catches, and its message.  The
names and numbers that a message shows are kept beside its text wherever two
failures are compared by what they say.
-/

/-- The built-in exception classes met by the program, its own classes, and
one class for whatever a collaborator outside the program raises. -/
inductive ExceptionClass
  | valueError
  | typeError
  | overflowError
  | recursionError
  | keyError
  | assertionError
  | osError
  | unicodeDecodeError
  | unicodeEncodeError
  | deadManStateDecodeError
  | deadManStateStoreError
  | deadManTelegramDeliveryError
  | telegramDeliveryError
  | deadManRuntimeError
  | unknownHostError
  | engineInvalidClockResultError
  | unknownNodeError
  | ingestionInvalidClockResultError
  | malformedHeartbeatPayloadError
  | heartbeatAuthenticationError
  | duplicateNodeTokenError
  | jsonRejected
  | centralSettingsError
  | deadManSettingsError
  | schemaCompatibilityError
  | unsupportedSchemaVersionError
  | framingError
  | fingerprintError
  | foreign (name : String)
  /-- `KeyboardInterrupt` and the other classes outside `Exception`. -/
  | interrupt (name : String)
  deriving DecidableEq, Repr

/-- The subclasses of `ValueError`, as `except ValueError` sees them. -/
def ExceptionClass.isValueError : ExceptionClass -> Bool
  | .valueError => true
  | .unicodeDecodeError => true
  | .unicodeEncodeError => true
  | .duplicateNodeTokenError => true
  | _ => false

/-- What `except Exception` catches. -/
def ExceptionClass.isException : ExceptionClass -> Bool
  | .interrupt _ => false
  | _ => true

structure Raised where
  kind : ExceptionClass
  message : String := ""
  /-- The names the message shows, in order. -/
  names : List PyStr := []
  /-- The numbers it shows. -/
  numbers : List Number := []
  deriving DecidableEq, Repr

abbrev Fallible (α : Type) := Except Raised α

def raise {α : Type} (kind : ExceptionClass) (message : String) : Fallible α :=
  .error { kind := kind, message := message }

/-- A check with an exception class of its own. -/
def ensure (kind : ExceptionClass) (condition : Prop) [Decidable condition] (message : String) :
    Fallible Unit :=
  if condition then .ok () else raise kind message

/-- A constructor check: `if not condition: raise ValueError(message)`. -/
def require (condition : Prop) [Decidable condition] (message : String) : Fallible Unit :=
  if condition then .ok () else raise .valueError message

/-- A constructor check whose message shows the refused number. -/
def requireNumber (value : Number) (condition : Prop) [Decidable condition] (message : String) :
    Fallible Unit :=
  if condition then .ok ()
  else .error { kind := .valueError, message := message, numbers := [value] }

@[simp] theorem raise_ne_ok {α : Type} (kind : ExceptionClass) (message : String) (value : α) :
    raise kind message ≠ .ok value := by
  intro same
  cases same

@[simp] theorem require_eq_ok (condition : Prop) [Decidable condition] (message : String) :
    require condition message = .ok () ↔ condition := by
  unfold require
  split <;> simp [*]

@[simp] theorem requireNumber_eq_ok (value : Number) (condition : Prop) [Decidable condition]
    (message : String) : requireNumber value condition message = .ok () ↔ condition := by
  unfold requireNumber
  split <;> simp [*]

@[simp] theorem ensure_eq_ok (kind : ExceptionClass) (condition : Prop) [Decidable condition]
    (message : String) : ensure kind condition message = .ok () ↔ condition := by
  unfold ensure
  split <;> simp [*]

/-- A check followed by more code succeeds exactly when both do. -/
@[simp] theorem check_bind_eq_ok {ε β : Type} (check : Except ε Unit) (next : Except ε β)
    (value : β) :
    (check >>= fun _ => next) = .ok value ↔ check = .ok () ∧ next = .ok value := by
  cases check with
  | error e => simp [bind, Except.bind]
  | ok _ => simp [bind, Except.bind]

/-- A call whose result is used succeeds exactly when the rest succeeds on it. -/
theorem bind_eq_ok {ε α β : Type} {first : Except ε α} {next : α -> Except ε β}
    {value : β} :
    (first >>= next) = .ok value ↔ exists middle, first = .ok middle ∧ next middle = .ok value := by
  cases first with
  | error e => simp [bind, Except.bind]
  | ok middle => simp [bind, Except.bind]

/-- A call whose result is used fails if it fails itself or the rest does. -/
theorem bind_eq_error {ε α β : Type} {first : Except ε α} {next : α -> Except ε β} {e : ε} :
    (first >>= next) = .error e ↔
      first = .error e ∨ exists middle, first = .ok middle ∧ next middle = .error e := by
  cases first with
  | error e' => simp [bind, Except.bind]
  | ok value => simp [bind, Except.bind]

@[simp] theorem ok_bind {ε α β : Type} (value : α) (next : α -> Except ε β) :
    ((.ok value : Except ε α) >>= next) = next value := rfl

@[simp] theorem error_bind {ε α β : Type} (e : ε) (next : α -> Except ε β) :
    ((.error e : Except ε α) >>= next) = .error e := rfl

@[simp] theorem pure_eq_ok {ε α : Type} (value : α) : (pure value : Except ε α) = .ok value := rfl

/-- A frozen dataclass: its constructor keeps the fields that `__post_init__` accepts. -/
def construct {φ α : Type} (postInit : φ -> Fallible Unit)
    (build : (fields : φ) -> postInit fields = .ok () -> α) (fields : φ) : Fallible α :=
  match accepted : postInit fields with
  | .ok () => .ok (build fields accepted)
  | .error e => .error e

theorem construct_eq_ok {φ α : Type} {postInit : φ -> Fallible Unit}
    {build : (fields : φ) -> postInit fields = .ok () -> α} {fields : φ} {value : α} :
    construct postInit build fields = .ok value ↔ exists accepted, value = build fields accepted := by
  unfold construct
  constructor
  · intro constructed
    split at constructed
    · rename_i accepted
      cases constructed
      exact ⟨accepted, rfl⟩
    · cases constructed
  · rintro ⟨accepted, rfl⟩
    split
    · rfl
    · rename_i e refused
      rw [accepted] at refused
      cases refused

theorem construct_ok {φ α : Type} {postInit : φ -> Fallible Unit}
    (build : (fields : φ) -> postInit fields = .ok () -> α) {fields : φ}
    (accepted : postInit fields = .ok ()) :
    construct postInit build fields = .ok (build fields accepted) :=
  construct_eq_ok.mpr ⟨accepted, rfl⟩

theorem construct_eq_error {φ α : Type} {postInit : φ -> Fallible Unit}
    {build : (fields : φ) -> postInit fields = .ok () -> α} {fields : φ} {e : Raised} :
    construct postInit build fields = .error e ↔ postInit fields = .error e := by
  unfold construct
  constructor
  · intro refused
    split at refused
    · cases refused
    · rename_i raised failed
      cases refused
      exact failed
  · intro failed
    split
    · rename_i accepted
      rw [failed] at accepted
      cases accepted
    · rename_i raised refused
      rw [failed] at refused
      cases refused
      rfl

/-- Every exception of the call is of the allowed kind. -/
def RaisesOnly {α : Type} (allowed : ExceptionClass -> Prop) (call : Fallible α) : Prop :=
  forall e, call = .error e -> allowed e.kind

namespace RaisesOnly

variable {α β : Type} {allowed : ExceptionClass -> Prop}

theorem ok (value : α) : RaisesOnly allowed (.ok value) := by
  intro e failed
  cases failed

theorem raise {kind : ExceptionClass} (message : String) (expected : allowed kind) :
    RaisesOnly allowed (Python.raise kind message : Fallible α) := by
  intro e failed
  cases failed
  exact expected

theorem bind {first : Fallible α} {next : α -> Fallible β} (left : RaisesOnly allowed first)
    (right : forall value, first = .ok value -> RaisesOnly allowed (next value)) :
    RaisesOnly allowed (first >>= next) := by
  intro e failed
  cases call : first with
  | error raised =>
      rw [call, error_bind] at failed
      cases failed
      exact left e call
  | ok value =>
      rw [call, ok_bind] at failed
      exact right value call e failed

/-- A call raises what its parts raise. -/
theorem bind_iff {first : Fallible α} {next : α -> Fallible β} :
    RaisesOnly allowed (first >>= next) ↔ RaisesOnly allowed first ∧
      forall value, first = .ok value -> RaisesOnly allowed (next value) := by
  constructor
  · intro only
    constructor
    · intro e failed
      exact only e (by rw [failed, error_bind])
    · intro value succeeded
      rw [succeeded, ok_bind] at only
      exact only
  · rintro ⟨left, right⟩
    exact bind left right

theorem require {condition : Prop} [Decidable condition] (expected : allowed .valueError)
    (message : String) : RaisesOnly allowed (Python.require condition message) := by
  unfold Python.require
  split
  · exact ok ()
  · exact raise message expected

theorem requireNumber {value : Number} {condition : Prop} [Decidable condition]
    (expected : allowed .valueError) (message : String) :
    RaisesOnly allowed (Python.requireNumber value condition message) := by
  unfold Python.requireNumber
  split
  · exact ok ()
  · intro e failed
    cases failed
    exact expected

theorem mono {wider : ExceptionClass -> Prop} {call : Fallible α} (only : RaisesOnly allowed call)
    (weaken : forall kind, allowed kind -> wider kind) : RaisesOnly wider call :=
  fun e failed => weaken e.kind (only e failed)

end RaisesOnly

end Python
end HermesSentinel
