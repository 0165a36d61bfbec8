import HermesSentinel.Python.Exceptions

namespace HermesSentinel
namespace Python

/-!
# Converting numbers

A conversion to `float` rounds, and overflows on integers that are too large.
-/

open Foundation

namespace PyFloat

/-- The float closest to an exact value. -/
def ofExact (value : ℚ) : Fallible PyFloat :=
  if Binary64.Overflows value then raise .overflowError "int too large to convert to float"
  else .ok (.finite (Binary64.nearest value))

/-- `float(literal)` of a decimal numeral. -/
def ofDecimal (value : ℚ) : PyFloat :=
  if Binary64.Overflows value then (if value < 0 then .negativeInfinity else .infinity)
  else .finite (Binary64.nearest value)

end PyFloat

namespace Number

/-- `math.isfinite(value)`. -/
def isfinite : Number -> Fallible Bool
  | .int value => do
      let _ ← PyFloat.ofExact value
      .ok true
  | .float value => .ok value.isFinite

end Number

/-- `delta.total_seconds()` of a difference in microseconds. -/
def totalSeconds (delta : Int) : PyFloat :=
  .finite (Binary64.nearest ((delta : ℚ) / 1000000))

theorem totalSeconds_isFinite (delta : Int) : (totalSeconds delta).isFinite = true := rfl

theorem totalSeconds_nonneg {delta : Int} (nonneg : 0 ≤ delta) :
    (totalSeconds delta).lt PyFloat.zero = false := by
  have seconds : (0 : ℚ) ≤ (delta : ℚ) / 1000000 :=
    div_nonneg (Int.cast_nonneg nonneg) (by norm_num)
  have rounded := Binary64.nearest_nonneg seconds
  simp only [totalSeconds, PyFloat.lt, PyFloat.le, PyFloat.zero, decide_eq_true rounded,
    Bool.not_true, Bool.and_false]

end Python
end HermesSentinel
