import Mathlib.Data.List.Lex
import Mathlib.Order.Defs.LinearOrder
import Mathlib.Tactic.Ring

namespace Foundation
namespace FixedWidth

/-!
# Lexicographic order of fixed-width fields

Text assembled from zero-padded numbers of fixed width compares like the tuple
of those numbers.  Two facts carry this: a smaller field decides the
comparison whatever follows it, and an equal prefix passes the comparison on
to the rest.  The alphabet is arbitrary; only the order of its ten digits
matters.
-/

variable {α : Type}

/-- The decimal numeral of a number at a fixed width, most significant digit
first.  Digits beyond the width are cut off on the left. -/
def numeral (digit : Nat -> α) : Nat -> Nat -> List α
  | 0, _ => []
  | width + 1, n => digit (n / 10 ^ width % 10) :: numeral digit width (n % 10 ^ width)

@[simp] theorem numeral_length (digit : Nat -> α) (width n : Nat) :
    (numeral digit width n).length = width := by
  induction width generalizing n with
  | zero => rfl
  | succ width inductionHypothesis =>
      simp only [numeral, List.length_cons, inductionHypothesis]

/-- Each step of reading a numeral from left to right appends one digit to the
number read so far. -/
theorem foldl_numeral {digit : Nat -> α} {digitValue : α -> Nat}
    (inverts : forall d, d < 10 -> digitValue (digit d) = d) (width n start : Nat)
    (bounded : n < 10 ^ width) :
    (numeral digit width n).foldl (fun total c => total * 10 + digitValue c) start =
      start * 10 ^ width + n := by
  induction width generalizing n start with
  | zero =>
      have zero : n = 0 := by simpa using bounded
      simp [numeral, zero]
  | succ width inductionHypothesis =>
      have positive : 0 < 10 ^ width := Nat.pow_pos (by decide)
      have small : n / 10 ^ width < 10 := by
        rw [Nat.div_lt_iff_lt_mul positive]
        calc n < 10 ^ (width + 1) := bounded
          _ = 10 * 10 ^ width := by ring
      simp only [numeral, List.foldl_cons]
      rw [inductionHypothesis _ _ (Nat.mod_lt _ positive), Nat.mod_eq_of_lt small,
        inverts _ small]
      have split := Nat.div_add_mod n (10 ^ width)
      calc (start * 10 + n / 10 ^ width) * 10 ^ width + n % 10 ^ width
          = start * 10 ^ (width + 1) + (10 ^ width * (n / 10 ^ width) + n % 10 ^ width) := by ring
        _ = start * 10 ^ (width + 1) + n := by rw [split]

theorem mem_numeral {digit : Nat -> α} {width n : Nat} {c : α} (member : c ∈ numeral digit width n) :
    exists d, d < 10 ∧ c = digit d := by
  induction width generalizing n with
  | zero => cases member
  | succ width inductionHypothesis =>
      rcases List.mem_cons.mp member with first | later
      · exact ⟨_, Nat.mod_lt _ (by decide), first⟩
      · exact inductionHypothesis later

section Order

variable [LinearOrder α]

theorem append_lt_append_of_lt {left right : List α} (left' right' : List α)
    (sameLength : left.length = right.length) (lt : left < right) :
    left ++ left' < right ++ right' := by
  induction left generalizing right with
  | nil =>
      have empty : right = [] := List.eq_nil_of_length_eq_zero sameLength.symm
      subst empty
      exact absurd lt (List.not_lt_nil _)
  | cons head tail inductionHypothesis =>
      cases right with
      | nil => cases sameLength
      | cons head' tail' =>
          rw [List.cons_append, List.cons_append, List.cons_lt_cons_iff]
          rcases List.cons_lt_cons_iff.mp lt with smaller | ⟨same, rest⟩
          · exact Or.inl smaller
          · exact Or.inr ⟨same, inductionHypothesis (Nat.succ.inj sameLength) rest⟩

theorem append_lt_append_left (common : List α) {left right : List α} (lt : left < right) :
    common ++ left < common ++ right := by
  induction common with
  | nil => exact lt
  | cons head tail inductionHypothesis =>
      rw [List.cons_append, List.cons_append, List.cons_lt_cons_iff]
      exact Or.inr ⟨rfl, inductionHypothesis⟩

/-- Numerals of one width are ordered like their numbers. -/
theorem numeral_lt_numeral {digit : Nat -> α}
    (ordered : forall a b, a < b -> b < 10 -> digit a < digit b)
    {width first second : Nat} (lt : first < second) (bounded : second < 10 ^ width) :
    numeral digit width first < numeral digit width second := by
  induction width generalizing first second with
  | zero => omega
  | succ width inductionHypothesis =>
      have positive : 0 < 10 ^ width := Nat.pow_pos (by decide)
      have small : second / 10 ^ width < 10 := by
        rw [Nat.div_lt_iff_lt_mul positive]
        calc second < 10 ^ (width + 1) := bounded
          _ = 10 * 10 ^ width := by ring
      have mono : first / 10 ^ width ≤ second / 10 ^ width :=
        Nat.div_le_div_right (Nat.le_of_lt lt)
      rw [numeral, numeral, List.cons_lt_cons_iff, Nat.mod_eq_of_lt small,
        Nat.mod_eq_of_lt (Nat.lt_of_le_of_lt mono small)]
      rcases Nat.lt_or_eq_of_le mono with smaller | same
      · exact Or.inl (ordered _ _ smaller small)
      · refine Or.inr ⟨by rw [same], inductionHypothesis ?_ (Nat.mod_lt _ positive)⟩
        have splitFirst := Nat.div_add_mod first (10 ^ width)
        have splitSecond := Nat.div_add_mod second (10 ^ width)
        rw [same] at splitFirst
        omega

/-- A smaller field decides, whatever follows. -/
theorem numeral_append_lt {digit : Nat -> α}
    (ordered : forall a b, a < b -> b < 10 -> digit a < digit b)
    {width first second : Nat} (rest rest' : List α)
    (lt : first < second) (bounded : second < 10 ^ width) :
    numeral digit width first ++ rest < numeral digit width second ++ rest' :=
  append_lt_append_of_lt rest rest' (by simp) (numeral_lt_numeral ordered lt bounded)

end Order

end FixedWidth
end Foundation
