import Mathlib.Data.List.Lex
import Mathlib.Order.Fin.Basic

namespace Foundation

/-!
# Text as code points

A text is a list of code points, lone surrogates included.  It is not a list
of Unicode scalar values, so Lean's own strings only serve to write literals.
-/

abbrev CodePoint := Fin 0x110000

abbrev Text := List CodePoint

def codePoint (c : Char) : CodePoint :=
  ⟨c.toNat, by
    have valid := c.valid
    simp only [UInt32.isValidChar, Nat.isValidChar] at valid
    simp only [Char.toNat]
    omega⟩

/-- A literal text. -/
def text (literal : String) : Text :=
  literal.toList.map codePoint

/-- The surrogate code points, which denote no character of their own. -/
def isSurrogate (c : CodePoint) : Bool :=
  decide (0xD800 ≤ c.val ∧ c.val ≤ 0xDFFF)

def isDigit (c : CodePoint) : Bool :=
  decide (48 ≤ c.val ∧ c.val ≤ 57)

/-- The decimal digit of a number below ten. -/
def digit (n : Nat) : CodePoint :=
  ⟨48 + n % 10, by omega⟩

def digitValue (c : CodePoint) : Nat :=
  c.val - 48

theorem isDigit_digit (n : Nat) : isDigit (digit n) = true := by
  have below : n % 10 < 10 := Nat.mod_lt _ (by decide)
  exact decide_eq_true ⟨Nat.le_add_right 48 _, by show 48 + n % 10 ≤ 57; omega⟩

theorem digitValue_digit {n : Nat} (small : n < 10) : digitValue (digit n) = n := by
  simp only [digitValue, digit]
  omega

theorem digit_lt_digit {a b : Nat} (lt : a < b) (small : b < 10) : digit a < digit b := by
  simp only [digit, Fin.mk_lt_mk]
  omega

/-- The decimal numeral of a number, without leading zeros. -/
def decimal (n : Nat) : Text :=
  if n < 10 then [digit n] else decimal (n / 10) ++ [digit (n % 10)]
termination_by n

/-- The number a list of decimal digits denotes. -/
def decimalValue (digits : Text) : Nat :=
  digits.foldl (fun total c => total * 10 + digitValue c) 0

theorem decimalValue_concat (digits : Text) (last : CodePoint) :
    decimalValue (digits ++ [last]) = decimalValue digits * 10 + digitValue last := by
  rw [decimalValue, List.foldl_append]
  rfl

theorem decimalValue_decimal (n : Nat) : decimalValue (decimal n) = n := by
  induction n using Nat.strongRecOn with
  | ind n inductionHypothesis =>
      rw [decimal]
      by_cases small : n < 10
      · rw [if_pos small]
        simp only [decimalValue, List.foldl_cons, List.foldl_nil, digitValue_digit small]
        omega
      · rw [if_neg small, decimalValue_concat, inductionHypothesis (n / 10) (by omega),
          digitValue_digit (Nat.mod_lt _ (by decide))]
        omega

theorem isDigit_of_mem_decimal (n : Nat) : forall c, c ∈ decimal n -> isDigit c = true := by
  induction n using Nat.strongRecOn with
  | ind n inductionHypothesis =>
      intro c member
      rw [decimal] at member
      by_cases small : n < 10
      · rw [if_pos small] at member
        rw [List.mem_singleton.mp member]
        exact isDigit_digit n
      · rw [if_neg small] at member
        rcases List.mem_append.mp member with older | last
        · exact inductionHypothesis (n / 10) (by omega) c older
        · rw [List.mem_singleton.mp last]
          exact isDigit_digit _

/-- A numeral starts with zero only when it is the numeral of zero. -/
theorem decimal_head (n : Nat) : exists first rest, decimal n = first :: rest ∧
    (first = digit 0 -> rest = []) := by
  induction n using Nat.strongRecOn with
  | ind n inductionHypothesis =>
      rw [decimal]
      by_cases small : n < 10
      · rw [if_pos small]
        exact ⟨_, _, rfl, fun _ => rfl⟩
      · rw [if_neg small]
        obtain ⟨first, rest, shape, zero⟩ := inductionHypothesis (n / 10) (by omega)
        refine ⟨first, rest ++ [digit (n % 10)], by rw [shape]; rfl, ?_⟩
        intro isZero
        have single := zero isZero
        have quotient := decimalValue_decimal (n / 10)
        rw [shape, single, isZero] at quotient
        have impossible : (0 : Nat) = n / 10 := quotient
        omega

end Foundation
