import HermesSentinel.Python.Json
import HermesSentinel.Settings.Environment

namespace HermesSentinel
namespace Settings

open Python
open Foundation

/-!
# Strict JSON documents

The settings loader reads a document with hooks that raise an exception of its
own, and tells the ways a document is refused apart.  The scanner is a
parameter: it ends with a value, a `ValueError` or a `RecursionError`, and
before an error it may have completed some values, to which the hooks were
already applied.
-/

/-- What the scanner ends with. -/
inductive JsonScan
  | value (document : Json)
  | malformed (completed : List Json)
  | tooDeep (completed : List Json)

/-- What the loaders rely on of the interpreter. -/
structure Interpreter where
  scanJson : PyStr -> JsonScan
  digitLimit : Nat

/-- `_reject_duplicate_keys` and `_reject_non_finite_constant`. -/
def rejectionHooks : StrictHooks where
  duplicateKey := "duplicate object key"
  nonFinite := "non-finite constant"

/-- The hooks raise `_JSONRejected`. -/
def rejecting {α : Type} (hooked : Fallible α) : Fallible α :=
  match hooked with
  | .ok value => .ok value
  | .error e => raise .jsonRejected e.message

/-- `json.loads` with the hooks. -/
def jsonLoads (interpreter : Interpreter) (raw : PyStr) : Fallible Json :=
  match interpreter.scanJson raw with
  | .value document => rejecting (rejectionHooks.apply document)
  | .malformed completed => do
      let _ ← rejecting (rejectionHooks.applyItems completed)
      raise .valueError "JSONDecodeError"
  | .tooDeep completed => do
      let _ ← rejecting (rejectionHooks.applyItems completed)
      raise .recursionError "maximum recursion depth exceeded"

/-- The document of a variable, or why it is refused. -/
def loadJsonDocument (interpreter : Interpreter) (name : String) (raw : PyStr) : Fallible Json :=
  match jsonLoads interpreter raw with
  | .ok document => .ok document
  | .error e =>
      if e.kind = .jsonRejected then
        raise .centralSettingsError (name ++ " is not acceptable strict JSON: " ++ e.message)
      else if e.kind.isValueError = true then
        raise .centralSettingsError (name ++ " is not acceptable strict JSON: malformed JSON")
      else if e.kind = .recursionError then
        raise .centralSettingsError (name ++ " is not acceptable strict JSON: nesting too deep")
      else .error e

theorem rejecting_raises {α : Type} (hooked : Fallible α) :
    RaisesOnly (fun kind => kind = .jsonRejected) (rejecting hooked) := by
  cases hooked with
  | ok value => exact .ok value
  | error e => exact .raise _ rfl

/-- The errors a document is refused with. -/
def Refuses (kind : ExceptionClass) : Prop :=
  kind = .jsonRejected ∨ kind = .valueError ∨ kind = .recursionError

theorem jsonLoads_raises (interpreter : Interpreter) (raw : PyStr) :
    RaisesOnly Refuses (jsonLoads interpreter raw) := by
  have rejected {α : Type} (hooked : Fallible α) : RaisesOnly Refuses (rejecting hooked) :=
    (rejecting_raises hooked).mono fun _ => Or.inl
  unfold jsonLoads
  cases interpreter.scanJson raw with
  | value document => exact rejected _
  | malformed completed =>
      exact .bind (rejected _) fun _ _ => .raise _ (Or.inr (Or.inl rfl))
  | tooDeep completed =>
      exact .bind (rejected _) fun _ _ => .raise _ (Or.inr (Or.inr rfl))

theorem loadJsonDocument_eq_ok {interpreter : Interpreter} {name : String} {raw : PyStr}
    {document : Json} :
    loadJsonDocument interpreter name raw = .ok document ↔
      jsonLoads interpreter raw = .ok document := by
  unfold loadJsonDocument
  cases jsonLoads interpreter raw with
  | ok own => exact Iff.rfl
  | error e =>
      constructor
      · intro loaded
        simp only at loaded
        split at loaded
        · cases loaded
        · split at loaded
          · cases loaded
          · split at loaded
            · cases loaded
            · cases loaded
      · intro impossible
        cases impossible

theorem loadJsonDocument_raises (interpreter : Interpreter) (name : String) (raw : PyStr) :
    RaisesOnly (fun kind => kind = .centralSettingsError)
      (loadJsonDocument interpreter name raw) := by
  have refusals := jsonLoads_raises interpreter raw
  unfold loadJsonDocument
  cases loaded : jsonLoads interpreter raw with
  | ok document => exact .ok document
  | error e =>
      simp only
      rcases refusals e loaded with rejected | malformed | deep
      · rw [if_pos rejected]
        exact .raise _ rfl
      · rw [malformed]
        exact .raise _ rfl
      · rw [deep]
        exact .raise _ rfl

end Settings
end HermesSentinel
