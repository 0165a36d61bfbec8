import HermesSentinel.Foundation.Binary64

namespace HermesSentinel
namespace Python

/-!
# Numeric values

A `float` is given by its exact value; the sign of a zero, which no comparison
sees, is not kept.  Where the program accepts an `int` or a `float` alike the
value is a `Number`.  Comparisons between the two are exact.
-/

inductive PyFloat
  | finite (value : ℚ)
  | infinity
  | negativeInfinity
  | nan
  deriving DecidableEq, Repr

namespace PyFloat

/-- `math.isfinite(value)` of a float. -/
def isFinite : PyFloat -> Bool
  | .finite _ => true
  | _ => false

/-- `first <= second`. -/
def le : PyFloat -> PyFloat -> Bool
  | .nan, _ => false
  | _, .nan => false
  | .finite a, .finite b => decide (a ≤ b)
  | .negativeInfinity, _ => true
  | _, .infinity => true
  | _, _ => false

/-- `first < second`. -/
def lt (first second : PyFloat) : Bool :=
  le first second && ! le second first

def zero : PyFloat := .finite 0

def hundred : PyFloat := .finite 100

end PyFloat

inductive Number
  | int (value : Int)
  | float (value : PyFloat)
  deriving DecidableEq, Repr

/-- The value comparisons work on. -/
def Number.exact : Number -> PyFloat
  | .int value => .finite value
  | .float value => value

end Python
end HermesSentinel
