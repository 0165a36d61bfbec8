import Mathlib.Algebra.Order.Field.Power
import Mathlib.Data.Int.Log
import Mathlib.Data.Rat.Floor

namespace Foundation

/-!
# Rounding to binary64

The finite binary64 numbers are rationals, and an operation on them is the
exact operation followed by `nearest`: the closest number with 53 significant
bits, the even one where two are equally close.
-/

namespace Binary64

/-- The nearest integer, the even one in the middle. -/
def roundHalfEven (q : ℚ) : Int :=
  let below := ⌊q⌋
  let rest := q - below
  if rest < 1 / 2 then below
  else if 1 / 2 < rest then below + 1
  else if below % 2 = 0 then below
  else below + 1

theorem roundHalfEven_nonneg {q : ℚ} (nonneg : 0 ≤ q) : 0 ≤ roundHalfEven q := by
  have below : 0 ≤ ⌊q⌋ := Int.floor_nonneg.mpr nonneg
  unfold roundHalfEven
  dsimp only
  split_ifs
  · exact below
  · omega
  · exact below
  · omega

/-- The exponent of the last place of a number of this size. -/
def lastPlace (q : ℚ) : Int :=
  max (Int.log 2 |q| - 52) (-1074)

def nearest (q : ℚ) : ℚ :=
  roundHalfEven (q / 2 ^ lastPlace q) * 2 ^ lastPlace q

/-- No finite number is close enough. -/
def Overflows (q : ℚ) : Prop :=
  2 ^ (1024 : Nat) ≤ |nearest q|

instance (q : ℚ) : Decidable (Overflows q) :=
  inferInstanceAs (Decidable (_ ≤ _))

theorem nearest_nonneg {q : ℚ} (nonneg : 0 ≤ q) : 0 ≤ nearest q := by
  have unit : (0 : ℚ) < 2 ^ lastPlace q := zpow_pos two_pos _
  have scaled : 0 ≤ roundHalfEven (q / 2 ^ lastPlace q) :=
    roundHalfEven_nonneg (div_nonneg nonneg unit.le)
  exact mul_nonneg (Int.cast_nonneg scaled) unit.le

end Binary64

end Foundation
