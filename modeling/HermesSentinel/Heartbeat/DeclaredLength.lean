import HermesSentinel.Heartbeat.BodyFraming
import HermesSentinel.Settings.Environment

namespace HermesSentinel
namespace Heartbeat

open Python
open Foundation
open Settings (intOf unsigned)

/-!
# The declared length

The values of the `Content-Length` header decide alone how
`contentLengthOrNone` ends.  `Converting.contentLengthOrNone` is the same
function with its calls of `int`: whatever the limit of the interpreter on
digits, none of them fails, since none is given more than five.
-/

/-- `sys.get_int_max_str_digits()`: zero for no limit, and never a small one. -/
structure DigitLimit where
  digits : Nat
  admitted : digits = 0 ∨ 640 ≤ digits

/-- A `_FramingError`, or what `int` raises. -/
inductive LengthFailure
  | framing (status : Nat)
  | raised (e : Raised)

/-- A program that notes the texts it hands to `int`. -/
abbrev Converting (α : Type) := Program LengthFailure (List PyStr) α

/-- `raw.lstrip("0")`. -/
def lstripZeros (raw : PyStr) : PyStr :=
  raw.dropWhile fun c => decide (c = codePoint '0')

namespace Converting

variable (limit : DigitLimit)

/-- `int(digits)`, noted. -/
def int (digits : PyStr) : Converting Int := do
  Program.update fun converted => converted ++ [digits]
  match intOf limit.digits digits with
  | .error e => Program.interrupt (.raised e)
  | .ok value => pure value

/-- The end of `_content_length_or_none`. -/
def convertSignificant (significant : PyStr) : Converting Int :=
  if significant = [] then pure 0 else int limit significant

/-- `_content_length_or_none` with its calls of `int`. -/
def contentLengthOrNone (headers : List (PyStr × PyStr)) : Converting (Option Int) :=
  match getAll headers "Content-Length" with
  | [] => pure none
  | [value] =>
      let raw := stripBy (fun c => decide (c = codePoint ' ' ∨ c = codePoint '\t')) value
      if raw = [] ∨ raw.any (fun c => !isDigit c) = true then Program.interrupt (.framing 400)
      else if declaredLengthStatus raw ≠ none then Program.interrupt (.framing 413)
      else do
        let length ← convertSignificant limit (lstripZeros raw)
        pure (some length)
  | _ => Program.interrupt (.framing 400)

/-- An outcome in the terms of the function that converts. -/
def interpreted : Except Nat (Option Nat) -> Except LengthFailure (Option Int)
  | .ok length => .ok (length.map Int.ofNat)
  | .error status => .error (.framing status)

/-- Digits carry no sign, and a few of them stay below every limit. -/
theorem intOf_short {digits : PyStr} (spelled : LengthGrammar digits) (short : digits.length ≤ 640) :
    intOf limit.digits digits = .ok (decimalValue digits : Int) := by
  have admitted := limit.admitted
  have noSign : forall sign, isDigit sign = false -> digits.head? ≠ some sign := by
    intro sign notDigit first
    have member := List.mem_of_mem_head? first
    rw [spelled.2 sign member] at notDigit
    cases notDigit
  have minus := noSign (codePoint '-') (by decide)
  have plain : unsigned digits = digits := by
    rw [unsigned, if_neg]
    rintro (plus | isMinus)
    · exact noSign (codePoint '+') (by decide) plus
    · exact minus isMinus
  rw [intOf, plain, if_neg, if_neg minus]
  rintro ⟨limited, long⟩
  omega

theorem int_short {digits : PyStr} (spelled : LengthGrammar digits) (short : digits.length ≤ 640)
    (converted : List PyStr) :
    int limit digits converted = (.ok (decimalValue digits : Int), converted ++ [digits]) := by
  unfold int
  rw [intOf_short limit spelled short]
  rfl

/-- An accepted length leaves at most five digits to be converted. -/
theorem lstripZeros_length {raw : PyStr} (accepted : declaredLengthStatus raw = none) :
    (lstripZeros raw).length ≤ 5 := by
  by_contra longer
  have more : (text "16384").length < (lstripZeros raw).length := Nat.lt_of_not_le longer
  have nonempty : lstripZeros raw ≠ [] := List.ne_nil_of_length_pos (Nat.zero_lt_of_lt more)
  unfold lstripZeros at more nonempty
  unfold declaredLengthStatus at accepted
  rw [maxText_eq] at accepted
  dsimp only at accepted
  rw [if_neg nonempty, if_pos (.inl more)] at accepted
  cases accepted

/-- Calls of `int` with at most five digits, and no second one. -/
structure Bounded (converted : List PyStr) : Prop where
  once : converted.length ≤ 1
  short : forall digits, digits ∈ converted -> LengthGrammar digits ∧ digits.length ≤ 5

theorem Bounded.nothing : Bounded [] :=
  ⟨Nat.zero_le 1, fun _ member => absurd member List.not_mem_nil⟩

theorem Bounded.single {digits : PyStr} (spelled : LengthGrammar digits) (short : digits.length ≤ 5) :
    Bounded [digits] := by
  refine ⟨Nat.le_refl 1, ?_⟩
  intro other member
  rw [List.mem_singleton.mp member]
  exact ⟨spelled, short⟩

theorem convertSignificant_short {significant : PyStr} (digits : AllDigits significant)
    (short : significant.length ≤ 5) (converted : List PyStr) :
    exists given, Bounded given ∧ convertSignificant limit significant converted =
      (.ok (decimalValue significant : Int), converted ++ given) := by
  unfold convertSignificant
  by_cases zero : significant = []
  · rw [if_pos zero, zero]
    refine ⟨[], .nothing, ?_⟩
    rw [List.append_nil]
    rfl
  · rw [if_neg zero]
    have spelled : LengthGrammar significant := ⟨zero, digits⟩
    exact ⟨[significant], .single spelled short, int_short limit spelled (by omega) converted⟩

/-- Whatever the limit, the function ends as if `int` could not fail. -/
theorem contentLengthOrNone_run (headers : List (PyStr × PyStr)) (converted : List PyStr) :
    exists given, Bounded given ∧
      contentLengthOrNone limit headers converted =
        (interpreted (Heartbeat.contentLengthOrNone headers), converted ++ given) := by
  have refused : forall status, (Program.interrupt (.framing status) : Converting (Option Int)) converted =
      (.error (.framing status), converted ++ []) := by
    intro status
    rw [List.append_nil]
    rfl
  unfold contentLengthOrNone Heartbeat.contentLengthOrNone
  rcases getAll headers "Content-Length" with _ | ⟨value, _ | ⟨second, rest⟩⟩
  · refine ⟨[], .nothing, ?_⟩
    rw [List.append_nil]
    rfl
  · dsimp only
    have same : stripBy (fun c => decide (c = codePoint ' ' ∨ c = codePoint '\t')) value =
        lengthText value := rfl
    rw [same]
    by_cases foreign : lengthText value = [] ∨ (lengthText value).any (fun c => !isDigit c) = true
    · rw [if_pos foreign, if_pos foreign]
      exact ⟨[], .nothing, refused 400⟩
    · rw [if_neg foreign, if_neg foreign]
      have spelled := lengthGrammar_of_passed foreign
      cases judged : declaredLengthStatus (lengthText value) with
      | none =>
          have digits : AllDigits (lstripZeros (lengthText value)) := spelled.2.dropWhile _
          rcases convertSignificant_short limit digits (lstripZeros_length judged) converted with
            ⟨given, bounded, returned⟩
          rw [if_neg (not_not_intro rfl)]
          refine ⟨given, bounded, ?_⟩
          rw [Program.bind_returned returned]
          rfl
      | some status =>
          rw [declaredLengthStatus_eq spelled.2] at judged
          rw [if_pos (Option.some_ne_none status)]
          split at judged
          · cases judged
            exact ⟨[], .nothing, refused 413⟩
          · cases judged
  · exact ⟨[], .nothing, refused 400⟩

end Converting

/-- How the values of the header decide the outcome. -/
structure LengthDecided (values : List PyStr) (outcome : Except Nat (Option Nat)) : Prop where
  absent : outcome = .ok none ↔ values = []
  refused : outcome = .error 400 ↔ 1 < values.length ∨
    exists value, values = [value] ∧
      (lengthText value = [] ∨ exists c, c ∈ lengthText value ∧ isDigit c = false)
  tooLarge : outcome = .error 413 ↔ exists value, values = [value] ∧
    LengthGrammar (lengthText value) ∧ maxHeartbeatBodyBytes < decimalValue (lengthText value)
  declared : forall length, outcome = .ok (some length) ↔ exists value, values = [value] ∧
    LengthGrammar (lengthText value) ∧ decimalValue (lengthText value) = length ∧
      length ≤ maxHeartbeatBodyBytes

theorem not_lengthGrammar_iff {raw : PyStr} :
    ¬ LengthGrammar raw ↔ raw = [] ∨ exists c, c ∈ raw ∧ isDigit c = false := by
  have negated : forall c : CodePoint, (!isDigit c) = true ↔ isDigit c = false :=
    fun c => Bool.not_eq_true' (isDigit c) ▸ Iff.rfl
  rw [<- foreign_iff, List.any_eq_true]
  simp only [negated]

namespace LengthDecided

theorem missing : LengthDecided [] (.ok none) where
  absent := by simp
  refused := by simp
  tooLarge := by simp
  declared := by simp

theorem several (first second : PyStr) (rest : List PyStr) :
    LengthDecided (first :: second :: rest) (.error 400) where
  absent := by simp
  refused := by simp
  tooLarge := by simp
  declared := by simp

variable {value : PyStr}

theorem malformed (other : ¬ LengthGrammar (lengthText value)) :
    LengthDecided [value] (.error 400) where
  absent := by simp
  refused := by
    have foreign := not_lengthGrammar_iff.mp other
    exact iff_of_true rfl (.inr ⟨value, rfl, foreign⟩)
  tooLarge := by simp [other]
  declared := by simp [other]

/-- Within the grammar the header is not refused as malformed. -/
theorem not_refused (spelled : LengthGrammar (lengthText value)) :
    ¬ (1 < [value].length ∨ exists other, [value] = [other] ∧
      (lengthText other = [] ∨ exists c, c ∈ lengthText other ∧ isDigit c = false)) := by
  rintro (several | ⟨other, single, foreign⟩)
  · exact Nat.lt_irrefl 1 several
  · cases single
    exact not_lengthGrammar_iff.mpr foreign spelled

theorem tooLong (spelled : LengthGrammar (lengthText value))
    (large : maxHeartbeatBodyBytes < decimalValue (lengthText value)) :
    LengthDecided [value] (.error 413) where
  absent := by simp
  refused := iff_of_false (by decide) (not_refused spelled)
  tooLarge := iff_of_true rfl ⟨value, rfl, spelled, large⟩
  declared := by
    intro length
    constructor
    · intro impossible
      cases impossible
    · rintro ⟨other, single, _, denotes, fits⟩
      cases single
      omega

theorem fitting (spelled : LengthGrammar (lengthText value))
    (fits : decimalValue (lengthText value) ≤ maxHeartbeatBodyBytes) :
    LengthDecided [value] (.ok (some (decimalValue (lengthText value)))) where
  absent := by simp
  refused := iff_of_false (by simp) (not_refused spelled)
  tooLarge := by simp [fits]
  declared := by
    intro length
    constructor
    · intro same
      cases same
      exact ⟨value, rfl, spelled, rfl, fits⟩
    · rintro ⟨other, single, _, denotes, _⟩
      cases single
      rw [denotes]

end LengthDecided

theorem DeclaredLength.decided {headers : List (PyStr × PyStr)} {outcome : Except Nat (Option Nat)}
    (declared : DeclaredLength headers outcome) :
    LengthDecided (getAll headers "Content-Length") outcome := by
  cases declared with
  | absent missing =>
      rw [missing]
      exact .missing
  | duplicated first second rest several =>
      rw [several]
      exact .several first second rest
  | malformed value single other =>
      rw [single]
      exact .malformed other
  | tooLarge value single spelled large =>
      rw [single]
      exact .tooLong spelled large
  | declared value single spelled fits =>
      rw [single]
      exact .fitting spelled fits

/-- The values decide the outcome by the number they denote, and the calls of
`int` on the way there are given at most five digits. -/
theorem declared_length_exact (limit : DigitLimit) (headers : List (PyStr × PyStr))
    (converted : List PyStr) :
    LengthDecided (getAll headers "Content-Length") (contentLengthOrNone headers) ∧
      exists given, Converting.Bounded given ∧
        Converting.contentLengthOrNone limit headers converted =
          (Converting.interpreted (contentLengthOrNone headers), converted ++ given) :=
  ⟨(contentLengthOrNone_declared headers).decided,
    Converting.contentLengthOrNone_run limit headers converted⟩

example : contentLengthOrNone [(text "content-length", text " 0016384\t")] = .ok (some 16384) := by
  decide +kernel

example : contentLengthOrNone [(text "Content-Length", text "0016385")] = .error 413 := by
  decide +kernel

end Heartbeat
end HermesSentinel
