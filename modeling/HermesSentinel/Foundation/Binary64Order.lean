import HermesSentinel.Foundation.Binary64

namespace Foundation
namespace Binary64

/-!
# Rounding keeps order

Rounding to binary64 is monotone on the numbers from zero on, and the numbers
with at most 53 significant bits are left as they are.  Together they bound
what a number rounds to by what its bounds are.
-/

theorem roundHalfEven_intCast (n : Int) : roundHalfEven (n : ℚ) = n := by
  unfold roundHalfEven
  dsimp only
  rw [Int.floor_intCast, sub_self, if_pos one_half_pos]

theorem floor_le_roundHalfEven (q : ℚ) : ⌊q⌋ ≤ roundHalfEven q := by
  unfold roundHalfEven
  dsimp only
  split_ifs
  all_goals omega

theorem roundHalfEven_le_floor_succ (q : ℚ) : roundHalfEven q ≤ ⌊q⌋ + 1 := by
  unfold roundHalfEven
  dsimp only
  split_ifs
  all_goals omega

/-- Between two integers the rounded values are ordered like the numbers. -/
theorem roundHalfEven_le_of_floor_eq {a b : ℚ} (le : a ≤ b) (same : ⌊a⌋ = ⌊b⌋) :
    roundHalfEven a ≤ roundHalfEven b := by
  have rests : a - ⌊b⌋ ≤ b - ⌊b⌋ := sub_le_sub_right le _
  unfold roundHalfEven
  dsimp only
  rw [same]
  split_ifs
  all_goals first
    | omega
    | (exfalso; linarith)

theorem roundHalfEven_mono {a b : ℚ} (le : a ≤ b) : roundHalfEven a ≤ roundHalfEven b := by
  rcases Int.lt_or_eq_of_le (Int.floor_le_floor le) with earlier | same
  · calc
      roundHalfEven a ≤ ⌊a⌋ + 1 := roundHalfEven_le_floor_succ a
      _ ≤ ⌊b⌋ := earlier
      _ ≤ roundHalfEven b := floor_le_roundHalfEven b
  · exact roundHalfEven_le_of_floor_eq le same

/-- An integer bound on a number bounds what it rounds to. -/
theorem roundHalfEven_le {q : ℚ} {n : Int} (le : q ≤ n) : roundHalfEven q ≤ n := by
  rw [<- roundHalfEven_intCast n]
  exact roundHalfEven_mono le

theorem le_roundHalfEven {q : ℚ} {n : Int} (le : (n : ℚ) ≤ q) : n ≤ roundHalfEven q := by
  rw [<- roundHalfEven_intCast n]
  exact roundHalfEven_mono le

theorem lastPlace_mono {a b : ℚ} (positive : 0 < a) (le : a ≤ b) : lastPlace a ≤ lastPlace b := by
  unfold lastPlace
  rw [abs_of_pos positive, abs_of_pos (positive.trans_le le)]
  exact max_le_max (sub_le_sub_right (Int.log_mono_right positive le) 52) (le_refl _)

/-- A power of two is a multiple of every smaller one. -/
theorem zpow_eq_multiple {j k : Int} (le : j ≤ k) :
    (2 : ℚ) ^ k = ((2 ^ (k - j).toNat : Int) : ℚ) * 2 ^ j := by
  have exponent : ((k - j).toNat : Int) + j = k := by omega
  push_cast
  rw [<- zpow_natCast, <- zpow_add₀ two_ne_zero, exponent]

/-- A multiple of the last place is left as it is. -/
theorem nearest_of_multiple {q : ℚ} {n : Int} (multiple : q = n * 2 ^ lastPlace q) :
    nearest q = q := by
  have unit : (2 : ℚ) ^ lastPlace q ≠ 0 := zpow_ne_zero _ two_ne_zero
  have scaled : q / 2 ^ lastPlace q = n := by
    rw [div_eq_iff unit]
    exact multiple
  rw [nearest, scaled, roundHalfEven_intCast]
  exact multiple.symm

/-- The numbers with few significant bits are left as they are. -/
theorem nearest_natCast_mul_zpow {m : Nat} {k : Int} (significant : m < 2 ^ 53) (subnormal : -1074 ≤ k) :
    nearest (m * 2 ^ k) = m * 2 ^ k := by
  by_cases zero : m = 0
  · rw [zero, Nat.cast_zero, zero_mul, nearest, zero_div]
    rw [show roundHalfEven (0 : ℚ) = 0 from roundHalfEven_intCast 0, Int.cast_zero, zero_mul]
  · have unit : (0 : ℚ) < 2 ^ k := zpow_pos two_pos k
    have positive : (0 : ℚ) < m * 2 ^ k := mul_pos (Nat.cast_pos.mpr (Nat.pos_of_ne_zero zero)) unit
    have small : (m : ℚ) * 2 ^ k < 2 ^ (53 + k) := by
      rw [zpow_add₀ two_ne_zero]
      apply mul_lt_mul_of_pos_right _ unit
      exact_mod_cast significant
    have place : lastPlace (m * 2 ^ k) ≤ k := by
      have log : Int.log 2 ((m : ℚ) * 2 ^ k) < 53 + k :=
        (Int.lt_zpow_iff_log_lt Nat.one_lt_two positive).mp (by exact_mod_cast small)
      unfold lastPlace
      rw [abs_of_pos positive]
      omega
    apply nearest_of_multiple (n := m * 2 ^ (k - lastPlace (m * 2 ^ k)).toNat)
    rw [Int.cast_mul, Int.cast_natCast, mul_assoc, <- zpow_eq_multiple place]

/-- Numbers with the same last place are rounded to multiples of it. -/
theorem nearest_le_of_lastPlace_eq {a b : ℚ} (le : a ≤ b) (same : lastPlace a = lastPlace b) :
    nearest a ≤ nearest b := by
  have unit : (0 : ℚ) < 2 ^ lastPlace b := zpow_pos two_pos _
  unfold nearest
  rw [same]
  apply mul_le_mul_of_nonneg_right _ unit.le
  exact_mod_cast roundHalfEven_mono (div_le_div_of_nonneg_right le unit.le)

/-- A power of two that is a multiple of the last place bounds what is rounded. -/
theorem nearest_le_zpow {q : ℚ} {k : Int} (le : q ≤ 2 ^ k) (coarse : lastPlace q ≤ k) :
    nearest q ≤ 2 ^ k := by
  have unit : (0 : ℚ) < 2 ^ lastPlace q := zpow_pos two_pos _
  have split := zpow_eq_multiple coarse
  rw [nearest, split]
  apply mul_le_mul_of_nonneg_right _ unit.le
  apply Int.cast_le.mpr
  apply roundHalfEven_le
  rw [div_le_iff₀ unit, <- split]
  exact le

theorem zpow_le_nearest {q : ℚ} {k : Int} (le : 2 ^ k ≤ q) (coarse : lastPlace q ≤ k) :
    2 ^ k ≤ nearest q := by
  have unit : (0 : ℚ) < 2 ^ lastPlace q := zpow_pos two_pos _
  have split := zpow_eq_multiple coarse
  rw [nearest, split]
  apply mul_le_mul_of_nonneg_right _ unit.le
  apply Int.cast_le.mpr
  apply le_roundHalfEven
  rw [le_div_iff₀ unit, <- split]
  exact le

/-- Rounding is monotone: where the last places differ, a power of two lies
between the numbers, and it is left as it is. -/
theorem nearest_mono {a b : ℚ} (nonneg : 0 ≤ a) (le : a ≤ b) : nearest a ≤ nearest b := by
  rcases nonneg.eq_or_lt with zero | positive
  · have none : nearest a = 0 := by
      rw [<- zero]
      exact_mod_cast nearest_natCast_mul_zpow (m := 0) (k := 0) (by decide) (by decide)
    rw [none]
    exact nearest_nonneg (nonneg.trans le)
  · rcases (lastPlace_mono positive le).eq_or_lt with same | finer
    · exact nearest_le_of_lastPlace_eq le same
    · have bPositive := positive.trans_le le
      have logs := Int.log_mono_right (b := 2) positive le
      unfold lastPlace at finer
      rw [abs_of_pos positive, abs_of_pos bPositive] at finer
      have below : a ≤ 2 ^ Int.log 2 b := by
        apply (Int.lt_zpow_succ_log_self Nat.one_lt_two a).le.trans
        push_cast
        apply zpow_le_zpow_right₀ one_le_two
        omega
      have above : (2 : ℚ) ^ Int.log 2 b ≤ b := by
        exact_mod_cast Int.zpow_log_le_self Nat.one_lt_two bPositive
      calc
        nearest a ≤ 2 ^ Int.log 2 b := nearest_le_zpow below (by
          unfold lastPlace
          rw [abs_of_pos positive]
          omega)
        _ ≤ nearest b := zpow_le_nearest above (by
          unfold lastPlace
          rw [abs_of_pos bPositive]
          omega)

/-- A bound with few significant bits bounds what is rounded as well. -/
theorem nearest_le {q : ℚ} {m : Nat} {k : Int} (significant : m < 2 ^ 53) (subnormal : -1074 ≤ k)
    (nonneg : 0 ≤ q) (le : q ≤ m * 2 ^ k) : nearest q ≤ m * 2 ^ k := by
  rw [<- nearest_natCast_mul_zpow significant subnormal]
  exact nearest_mono nonneg le

theorem nearest_natCast {m : Nat} (significant : m < 2 ^ 53) : nearest m = m := by
  have exact := nearest_natCast_mul_zpow (k := 0) significant (by decide)
  rwa [zpow_zero, mul_one] at exact

/-- No number below `3 * 2 ^ 1022` overflows. -/
theorem not_overflows {q : ℚ} (nonneg : 0 ≤ q) (le : q ≤ 3 * 2 ^ (1022 : Nat)) : ¬ Overflows q := by
  have rounded : nearest q ≤ (3 : Nat) * 2 ^ (1022 : Int) :=
    nearest_le (by decide) (by decide) nonneg (by exact_mod_cast le)
  unfold Overflows
  rw [abs_of_nonneg (nearest_nonneg nonneg), not_le]
  have unit : (0 : ℚ) < 2 ^ (1022 : Nat) := pow_pos two_pos _
  have split : (2 : ℚ) ^ (1024 : Nat) = 4 * 2 ^ (1022 : Nat) := by
    rw [show 1024 = 2 + 1022 from rfl, pow_add]
    norm_num only
  rw [split]
  apply rounded.trans_lt
  apply mul_lt_mul_of_pos_right _ unit
  norm_num only

end Binary64
end Foundation
