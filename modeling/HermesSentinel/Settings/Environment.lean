import HermesSentinel.Foundation.Decimal
import HermesSentinel.Foundation.Dictionary
import HermesSentinel.Python.Number

namespace HermesSentinel
namespace Settings

open Python
open Foundation

/-!
# Reading an environment

Both loaders take an environment mapping and read it into a dictionary of their
own before they look at it.  Their readers of single variables are the same up
to the class of the error they raise.
-/

inductive EnvironmentValue
  | str (value : PyStr)
  /-- An object that is no string. -/
  | other (identity : Nat)
  deriving DecidableEq

abbrev Snapshot := Dictionary PyStr EnvironmentValue

/-- What `dict(env)` ends with: the entries, or whatever exception the mapping raises. -/
structure EnvironmentMapping where
  read : Fallible Snapshot
  raises : RaisesOnly (fun kind => kind.isException = true) read

/-- A plain dictionary. -/
def EnvironmentMapping.ofSnapshot (snapshot : Snapshot) : EnvironmentMapping where
  read := .ok snapshot
  raises := .ok snapshot

/-- The snapshot behind `except Exception`. -/
def takeSnapshot (kind : ExceptionClass) (env : EnvironmentMapping) : Fallible Snapshot :=
  match env.read with
  | .ok snapshot => .ok snapshot
  | .error e =>
      if e.kind.isException = true then
        raise kind "environment mapping must be deterministically readable"
      else .error e

def unsigned (raw : PyStr) : PyStr :=
  if raw.head? = some (codePoint '+') ∨ raw.head? = some (codePoint '-') then raw.tail else raw

def isDigits (s : PyStr) : Bool :=
  !s.isEmpty && s.all isDigit

/-- `_SIGNED_DECIMAL_INTEGER.match(raw)`. -/
def isSignedDecimalInteger (raw : PyStr) : Bool :=
  isDigits (unsigned raw)

/-- An optional exponent up to the end. -/
def isExponent : PyStr -> Bool
  | [] => true
  | letter :: rest =>
      (decide (letter = codePoint 'e') || decide (letter = codePoint 'E')) && isDigits (unsigned rest)

/-- `_DECIMAL_NUMBER.match(raw)`. -/
def isDecimalNumber (raw : PyStr) : Bool :=
  let whole := (unsigned raw).takeWhile isDigit
  let rest := (unsigned raw).dropWhile isDigit
  if rest.head? = some (codePoint '.') then
    !(rest.tail.takeWhile isDigit).isEmpty && isExponent (rest.tail.dropWhile isDigit)
  else !whole.isEmpty && isExponent rest

/-- `int(raw)` of a decimal numeral.  The interpreter converts no more digits
than its limit, unless that is zero. -/
def intOf (digitLimit : Nat) (raw : PyStr) : Fallible Int :=
  if digitLimit ≠ 0 ∧ digitLimit < (unsigned raw).length then
    raise .valueError "Exceeds the limit for integer string conversion"
  else if raw.head? = some (codePoint '-') then .ok (-(decimalValue (unsigned raw) : Int))
  else .ok (decimalValue (unsigned raw))

/-- `float(raw)` of a decimal numeral. -/
def floatOf (raw : PyStr) : PyFloat :=
  PyFloat.ofDecimal (Decimal.value (if raw.head? = some (codePoint '+') then raw.tail else raw))

section Readers

variable (kind : ExceptionClass)

/-- `_accepted`: the errors a constructor refuses its arguments with become the
loader's own. -/
def accepted {α : Type} (build : Fallible α) (label : String) : Fallible α :=
  match build with
  | .ok value => .ok value
  | .error e =>
      if e.kind = .typeError ∨ e.kind.isValueError = true ∨ e.kind = .overflowError then
        .error {
          kind := kind
          message := s!"{label}: " ++ e.message
          names := e.names
          numbers := e.numbers }
      else .error e

def requiredNonEmptyString (env : Snapshot) (name : String) : Fallible PyStr :=
  match env.get (text name) with
  | none => raise kind (name ++ " is required but missing")
  | some (.other _) => raise kind (name ++ " must be a string")
  | some (.str value) =>
      if isBlank value = false then .ok value
      else raise kind
        (name ++ " must be a non-empty string (not empty or whitespace-only)")

def optionalString (env : Snapshot) (name : String) : Fallible (Option PyStr) :=
  match env.get (text name) with
  | none => .ok none
  | some (.other _) => raise kind (name ++ " must be a string")
  | some (.str value) => .ok (some value)

def parseDecimalInt (digitLimit : Nat) (name : String) (raw : PyStr) : Fallible Int :=
  if isSignedDecimalInteger raw = true then
    match intOf digitLimit raw with
    | .ok converted => .ok converted
    | .error e =>
        if e.kind.isValueError = true then
          raise kind
            (name ++ " must be a decimal integer within the supported conversion length")
        else .error e
  else raise kind (name ++ " must be a strict decimal integer string")

def parseDecimalFloat (name : String) (raw : PyStr) : Fallible PyFloat :=
  if isDecimalNumber raw = true then
    if (floatOf raw).isFinite = true then .ok (floatOf raw)
    else raise kind (name ++ " must be a finite number")
  else raise kind (name ++ " must be a strict decimal number string")

def parsePositiveFloat (name : String) (raw : PyStr) : Fallible PyFloat := do
  let value ← parseDecimalFloat kind name raw
  if value.le PyFloat.zero = true then
    raise kind (name ++ " must be a finite positive number")
  else .ok value

/-- An optional variable and its value. -/
def optionalParsed {α : Type} (env : Snapshot) (name : String)
    (parse : PyStr -> Fallible α) : Fallible (Option α) := do
  let raw ← optionalString kind env name
  match raw with
  | none => .ok none
  | some raw => do
      let value ← parse raw
      .ok (some value)

end Readers

section Ends

variable {kind : ExceptionClass}

theorem raise_only {α : Type} (message : String) :
    RaisesOnly (fun raised => raised = kind) (raise kind message : Fallible α) :=
  .raise message rfl

theorem takeSnapshot_raises (env : EnvironmentMapping) :
    RaisesOnly (fun raised => raised = kind) (takeSnapshot kind env) := by
  unfold takeSnapshot
  cases read : env.read with
  | ok snapshot => exact .ok snapshot
  | error e =>
      simp only
      rw [if_pos (env.raises e read)]
      exact raise_only _

/-- A constructor's refusals become the loader's own. -/
theorem accepted_raises {α : Type} {build : Fallible α} (label : String)
    (refuses : RaisesOnly (fun raised => raised = .typeError ∨ raised.isValueError = true ∨
      raised = .overflowError) build) :
    RaisesOnly (fun raised => raised = kind) (accepted kind build label) := by
  unfold accepted
  cases built : build with
  | ok value => exact .ok value
  | error e =>
      simp only
      rw [if_pos (refuses e built)]
      intro raised same
      cases same
      rfl

theorem accepted_eq_ok {α : Type} {build : Fallible α} {label : String} {value : α} :
    accepted kind build label = .ok value ↔ build = .ok value := by
  unfold accepted
  cases build with
  | ok own => exact Iff.rfl
  | error e =>
      constructor
      · intro impossible
        simp only at impossible
        split at impossible
        · cases impossible
        · cases impossible
      · intro impossible
        cases impossible

theorem requiredNonEmptyString_raises (env : Snapshot) (name : String) :
    RaisesOnly (fun raised => raised = kind) (requiredNonEmptyString kind env name) := by
  unfold requiredNonEmptyString
  split
  · exact raise_only _
  · exact raise_only _
  · split
    · exact .ok _
    · exact raise_only _

theorem optionalString_raises (env : Snapshot) (name : String) :
    RaisesOnly (fun raised => raised = kind) (optionalString kind env name) := by
  unfold optionalString
  split
  · exact .ok _
  · exact raise_only _
  · exact .ok _

theorem intOf_raises (digitLimit : Nat) (raw : PyStr) :
    RaisesOnly (fun raised => raised = .valueError) (intOf digitLimit raw) := by
  unfold intOf
  split
  · exact raise_only _
  · split
    · exact .ok _
    · exact .ok _

theorem parseDecimalInt_raises (digitLimit : Nat) (name : String) (raw : PyStr) :
    RaisesOnly (fun raised => raised = kind) (parseDecimalInt kind digitLimit name raw) := by
  unfold parseDecimalInt
  split
  · cases converted : intOf digitLimit raw with
    | ok value => exact .ok value
    | error e =>
        simp only
        rw [intOf_raises digitLimit raw e converted]
        exact raise_only _
  · exact raise_only _

theorem parsePositiveFloat_raises (name : String) (raw : PyStr) :
    RaisesOnly (fun raised => raised = kind) (parsePositiveFloat kind name raw) := by
  apply RaisesOnly.bind
  · unfold parseDecimalFloat
    split
    · split
      · exact .ok _
      · exact raise_only _
    · exact raise_only _
  · intro value _
    split
    · exact raise_only _
    · exact .ok _

theorem optionalParsed_raises {α : Type} {parse : PyStr -> Fallible α} (env : Snapshot)
    (bounded : forall raw, RaisesOnly (fun raised => raised = kind) (parse raw)) (name : String) :
    RaisesOnly (fun raised => raised = kind) (optionalParsed kind env name parse) := by
  apply RaisesOnly.bind (optionalString_raises _ _)
  intro raw _
  cases raw with
  | none => exact .ok _
  | some raw => exact .bind (bounded raw) fun _ _ => .ok _

/-- A parsed duration is finite and positive. -/
theorem parsePositiveFloat_positive {name : String} {raw : PyStr} {value : PyFloat}
    (parsed : parsePositiveFloat kind name raw = .ok value) :
    value.isFinite = true ∧ value.le PyFloat.zero = false := by
  rcases bind_eq_ok.mp parsed with ⟨own, decimal, checked⟩
  have finite : own.isFinite = true := by
    unfold parseDecimalFloat at decimal
    split at decimal
    · split at decimal
      · rename_i finite
        cases decimal
        exact finite
      · cases decimal
    · cases decimal
  by_cases zero : own.le PyFloat.zero = true
  · rw [if_pos zero] at checked
    cases checked
  · rw [if_neg zero] at checked
    cases checked
    exact ⟨finite, Bool.eq_false_iff.mpr zero⟩

end Ends

end Settings
end HermesSentinel
