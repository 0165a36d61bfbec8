import HermesSentinel.Foundation.Binary64Order
import HermesSentinel.Foundation.Decimal
import HermesSentinel.Foundation.FixedWidth
import HermesSentinel.Foundation.JsonRoundTrip
import Mathlib.Data.List.TakeWhile

namespace Foundation
namespace Decimal

/-!
# Fixed-point numerals

A number from zero on is printed with a fixed number of decimals, the last one
rounded half to even.  What is printed denotes the rounded number, and it is a
numeral that readers of decimal numerals and of JSON accept.
-/

open FixedWidth

/-- One or more digits. -/
def isCount (token : Text) : Bool :=
  !token.isEmpty && token.all isDigit

/-- One or more digits, and a point with one or more digits if there is one. -/
def isDecimal (token : Text) : Bool :=
  isCount (token.takeWhile isDigit) &&
    match token.dropWhile isDigit with
    | [] => true
    | point :: rest => decide (point = codePoint '.') && isCount rest

/-- The number in units of the last decimal. -/
def units (places : Nat) (q : ℚ) : Nat :=
  (Binary64.roundHalfEven (q * 10 ^ places)).toNat

/-- The numeral with so many decimals. -/
def fixed (places : Nat) (q : ℚ) : Text :=
  decimal (units places q / 10 ^ places) ++
    if places = 0 then []
    else codePoint '.' :: numeral digit places (units places q % 10 ^ places)

theorem units_mono {places : Nat} {a b : ℚ} (le : a ≤ b) : units places a ≤ units places b := by
  have scaled : a * 10 ^ places ≤ b * 10 ^ places :=
    mul_le_mul_of_nonneg_right le (pow_nonneg (by norm_num) places)
  exact Int.toNat_le_toNat (Binary64.roundHalfEven_mono scaled)

theorem units_natCast (places n : Nat) : units places (n : ℚ) = n * 10 ^ places := by
  have whole : (n : ℚ) * 10 ^ places = ((n * 10 ^ places : Nat) : Int) := by push_cast; rfl
  rw [units, whole, Binary64.roundHalfEven_intCast, Int.toNat_natCast]

theorem units_le {places n : Nat} {q : ℚ} (le : q ≤ n) : units places q ≤ n * 10 ^ places := by
  rw [<- units_natCast places n]
  exact units_mono le

theorem fixed_natCast (n : Nat) : fixed 0 (n : ℚ) = decimal n := by
  rw [fixed, if_pos rfl, List.append_nil, units_natCast, pow_zero, Nat.mul_one, Nat.div_one]

theorem all_isDigit_decimal (n : Nat) : (decimal n).all isDigit = true :=
  List.all_eq_true.mpr (isDigit_of_mem_decimal n)

theorem all_isDigit_numeral (width n : Nat) : (numeral digit width n).all isDigit = true := by
  apply List.all_eq_true.mpr
  intro c member
  rcases mem_numeral member with ⟨d, _, rfl⟩
  exact isDigit_digit d

/-- The digits of the whole part end at the point. -/
theorem takeWhile_digits {digits : Text} (all : digits.all isDigit = true) (rest : Text) :
    (digits ++ codePoint '.' :: rest).takeWhile isDigit = digits := by
  rw [List.takeWhile_append_of_pos (List.all_eq_true.mp all), List.takeWhile_cons_of_neg (by decide),
    List.append_nil]

theorem dropWhile_digits {digits : Text} (all : digits.all isDigit = true) (rest : Text) :
    (digits ++ codePoint '.' :: rest).dropWhile isDigit = codePoint '.' :: rest := by
  rw [List.dropWhile_append_of_pos (List.all_eq_true.mp all), List.dropWhile_cons_of_neg (by decide)]

theorem takeWhile_all {digits : Text} (all : digits.all isDigit = true) :
    digits.takeWhile isDigit = digits :=
  List.takeWhile_eq_self_iff.mpr (List.all_eq_true.mp all)

theorem dropWhile_all {digits : Text} (all : digits.all isDigit = true) :
    digits.dropWhile isDigit = [] :=
  List.dropWhile_eq_nil_iff.mpr (List.all_eq_true.mp all)

theorem value_decimal (n : Nat) : value (decimal n) = n := by
  have all := all_isDigit_decimal n
  rw [value, if_neg (Json.decimal_head_ne_minus n), magnitude]
  rw [takeWhile_all all, dropWhile_all all]
  simp [exponent, decimalValue_decimal]

theorem decimalValue_append_numeral {width n : Nat} (whole : Nat) (bounded : n < 10 ^ width) :
    decimalValue (decimal whole ++ numeral digit width n) = whole * 10 ^ width + n := by
  rw [decimalValue, List.foldl_append]
  rw [foldl_numeral (fun d small => digitValue_digit small) width n _ bounded]
  congr 2
  exact decimalValue_decimal whole

theorem value_point {width n : Nat} (whole : Nat) (bounded : n < 10 ^ width) :
    value (decimal whole ++ codePoint '.' :: numeral digit width n) =
      ((whole * 10 ^ width + n : Nat) : ℚ) / 10 ^ width := by
  have all := all_isDigit_decimal whole
  have fraction := all_isDigit_numeral width n
  have unsigned : (decimal whole ++ codePoint '.' :: numeral digit width n).head? ≠
      some (codePoint '-') := by
    rcases decimal_head whole with ⟨first, rest, shape, _⟩
    have own := Json.decimal_head_ne_minus whole
    rw [shape] at own ⊢
    exact own
  rw [value, if_neg unsigned, magnitude]
  rw [takeWhile_digits all, dropWhile_digits all, List.head?_cons, if_pos rfl, if_pos rfl,
    List.tail_cons, takeWhile_all fraction, dropWhile_all fraction,
    decimalValue_append_numeral whole bounded, numeral_length]
  simp only [List.tail_nil, exponent, zero_sub, zpow_neg, zpow_natCast]
  rfl

/-- A numeral denotes the rounded number. -/
theorem value_fixed (places : Nat) (q : ℚ) : value (fixed places q) = units places q / 10 ^ places := by
  by_cases whole : places = 0
  · subst whole
    rw [fixed, if_pos rfl, List.append_nil, value_decimal, pow_zero, pow_zero, Nat.div_one, div_one]
  · have positive : 0 < 10 ^ places := Nat.pow_pos (by decide)
    rw [fixed, if_neg whole, value_point _ (Nat.mod_lt _ positive)]
    congr 2
    rw [Nat.mul_comm]
    exact Nat.div_add_mod _ _

theorem value_fixed_nonneg (places : Nat) (q : ℚ) : 0 ≤ value (fixed places q) := by
  rw [value_fixed]
  exact div_nonneg (Nat.cast_nonneg _) (pow_nonneg (by norm_num) _)

theorem value_fixed_le {places n : Nat} {q : ℚ} (le : q ≤ n) : value (fixed places q) ≤ n := by
  have positive : (0 : ℚ) < 10 ^ places := pow_pos (by norm_num) places
  have rounded : units places q ≤ n * 10 ^ places := units_le le
  rw [value_fixed, div_le_iff₀ positive]
  exact_mod_cast rounded

theorem value_fixed_zero (places : Nat) : value (fixed places 0) = 0 := by
  have none : units places 0 = 0 := by
    have zero := units_natCast places 0
    rw [Nat.zero_mul] at zero
    exact_mod_cast zero
  rw [value_fixed, none, Nat.cast_zero, zero_div]

/-- A numeral without a sign is not negative. -/
theorem value_nonneg {token : Text} (unsigned : isDecimal token = true) : 0 ≤ value token := by
  have digits : (token.takeWhile isDigit).isEmpty = false := by
    rw [isDecimal, isCount, Bool.and_eq_true, Bool.and_eq_true, Bool.not_eq_true'] at unsigned
    exact unsigned.1.1
  have head : token.head? ≠ some (codePoint '-') := by
    intro minus
    rcases List.head?_eq_some_iff.mp minus with ⟨rest, shape⟩
    rw [shape, List.takeWhile_cons_of_neg (by decide)] at digits
    cases digits
  rw [value, if_neg head, magnitude]
  exact mul_nonneg (Nat.cast_nonneg _) (zpow_nonneg (by norm_num) _)

theorem simple_of_numeric {s : Text} (numeric : s.all Json.isNumberChar = true) : Json.SimpleString s := by
  intro c member
  have own := List.all_eq_true.mp numeric c member
  simp only [Json.isNumberChar, isDigit, Bool.or_eq_true, decide_eq_true_eq] at own
  rcases own with digit | rfl | rfl | rfl | rfl | rfl
  · exact Json.isSimple_of_val (by omega) (by omega) (by omega) (by omega)
  all_goals decide

theorem isNumberChar_fixed (places : Nat) (q : ℚ) : (fixed places q).all Json.isNumberChar = true := by
  have digits {s : Text} (all : s.all isDigit = true) : s.all Json.isNumberChar = true :=
    List.all_eq_true.mpr fun c member =>
      Json.isNumberChar_of_isDigit (List.all_eq_true.mp all c member)
  rw [fixed, List.all_append, digits (all_isDigit_decimal _), Bool.true_and]
  split
  · rfl
  · rw [List.all_cons, digits (all_isDigit_numeral _ _), Bool.and_true]
    decide

theorem fixed_ne_nil (places : Nat) (q : ℚ) : fixed places q ≠ [] := by
  rcases decimal_head (units places q / 10 ^ places) with ⟨first, rest, shape, _⟩
  rw [fixed, shape]
  exact List.cons_ne_nil _ _

/-- With decimals the numeral is no integer for a reader of JSON. -/
theorem readNumber_fixed {places : Nat} (decimals : places ≠ 0) (q : ℚ) :
    Json.readNumber (fixed places q) = some (.real (fixed places q)) := by
  have whole := all_isDigit_decimal (units places q / 10 ^ places)
  have fraction := all_isDigit_numeral places (units places q % 10 ^ places)
  rcases decimal_head (units places q / 10 ^ places) with ⟨first, rest, shape, zero⟩
  have integer := Json.readNatural_decimal (units places q / 10 ^ places)
  have unsigned := Json.decimal_head_ne_minus (units places q / 10 ^ places)
  have digits : (numeral digit places (units places q % 10 ^ places)).isEmpty = false := by
    rw [List.isEmpty_eq_false_iff]
    intro empty
    have length := numeral_length digit places (units places q % 10 ^ places)
    rw [empty] at length
    exact decimals length.symm
  have pointed : Json.readNatural (fixed places q) = none := by
    rw [fixed, if_neg decimals, shape, List.cons_append, Json.readNatural, if_neg]
    rintro ⟨_, all⟩
    rw [List.all_cons, List.all_append, List.all_cons] at all
    revert all
    simp [show isDigit (codePoint '.') = false from by decide]
  have head : (fixed places q).head? ≠ some (codePoint '-') := by
    rw [fixed, shape]
    rw [shape] at unsigned
    exact unsigned
  unfold Json.readNumber
  rw [if_neg head]
  dsimp only
  rw [pointed]
  dsimp only
  rw [if_pos]
  rw [fixed, if_neg decimals, takeWhile_digits whole, dropWhile_digits whole, integer]
  refine ⟨rfl, ?_⟩
  rw [Json.isFraction, if_pos rfl, takeWhile_all fraction, dropWhile_all fraction, Json.isDigits,
    digits, fraction]
  rfl

end Decimal
end Foundation
