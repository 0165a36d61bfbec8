import HermesSentinel.Foundation.CodePoints
import Mathlib.Data.List.Induction
import Mathlib.Order.Defs.LinearOrder
import Mathlib.Tactic.Ring

namespace Foundation

/-!
# The order of digit strings

Digit strings without leading zeros are ordered like their numbers: a longer
one denotes the greater number, and of two that are equally long the greater in
the order of texts.
-/

/-- A text of decimal digits. -/
def AllDigits (s : Text) : Prop :=
  forall c, c ∈ s -> isDigit c = true

theorem AllDigits.tail {c : CodePoint} {rest : Text} (digits : AllDigits (c :: rest)) :
    AllDigits rest :=
  fun d member => digits d (List.mem_cons_of_mem c member)

theorem AllDigits.dropWhile {s : Text} (digits : AllDigits s) (drop : CodePoint -> Bool) :
    AllDigits (s.dropWhile drop) :=
  fun c member => digits c ((List.dropWhile_sublist drop).subset member)

theorem digitValue_lt {c : CodePoint} (isDigit : isDigit c = true) : digitValue c < 10 := by
  have range := of_decide_eq_true isDigit
  unfold digitValue
  omega

theorem decimalValue_cons (c : CodePoint) (rest : Text) :
    decimalValue (c :: rest) = digitValue c * 10 ^ rest.length + decimalValue rest := by
  induction rest using List.reverseRecOn with
  | nil => simp [decimalValue]
  | append_singleton rest last inductionHypothesis =>
      rw [<- List.cons_append, decimalValue_concat, decimalValue_concat, inductionHypothesis,
        List.length_append, List.length_singleton, Nat.pow_succ]
      ring

/-- The leading digit decides, whatever follows. -/
theorem leading_lt {first second power rest : Nat} (smaller : first < second) (small : rest < power)
    (others : Nat) : first * power + rest < second * power + others :=
  calc first * power + rest < first * power + power := Nat.add_lt_add_left small _
    _ = (first + 1) * power := (Nat.succ_mul first power).symm
    _ ≤ second * power := Nat.mul_le_mul_right _ smaller
    _ ≤ second * power + others := Nat.le_add_right _ _

theorem decimalValue_lt {s : Text} (digits : AllDigits s) : decimalValue s < 10 ^ s.length := by
  induction s with
  | nil => exact Nat.one_pos
  | cons c rest inductionHypothesis =>
      have first := digitValue_lt (digits c List.mem_cons_self)
      have bound := leading_lt first (inductionHypothesis digits.tail) 0
      rw [Nat.add_zero, Nat.mul_comm 10] at bound
      rw [decimalValue_cons, List.length_cons, Nat.pow_succ]
      exact bound

/-- A leading digit other than zero gives the number its full length. -/
theorem le_decimalValue {c : CodePoint} {rest : Text} (isDigit : isDigit c = true)
    (notZero : c ≠ digit 0) : 10 ^ rest.length ≤ decimalValue (c :: rest) := by
  have range := of_decide_eq_true isDigit
  have positive : 1 ≤ digitValue c := by
    by_contra small
    apply notZero
    apply Fin.ext
    unfold digitValue at small
    show c.val = 48 + 0 % 10
    omega
  rw [decimalValue_cons]
  calc 10 ^ rest.length = 1 * 10 ^ rest.length := (Nat.one_mul _).symm
    _ ≤ digitValue c * 10 ^ rest.length := Nat.mul_le_mul_right _ positive
    _ ≤ digitValue c * 10 ^ rest.length + decimalValue rest := Nat.le_add_right _ _

/-- Strings of one length are ordered like their numbers. -/
theorem lt_iff_decimalValue_lt {s t : Text} (digits : AllDigits s) (digits' : AllDigits t)
    (length : s.length = t.length) : s < t ↔ decimalValue s < decimalValue t := by
  induction s generalizing t with
  | nil =>
      rw [List.eq_nil_of_length_eq_zero length.symm]
      exact ⟨fun impossible => absurd impossible (List.not_lt_nil _),
        fun impossible => absurd impossible (Nat.lt_irrefl _)⟩
  | cons c rest inductionHypothesis =>
      cases t with
      | nil => cases length
      | cons d others =>
          have sameLength := Nat.succ.inj length
          have below := decimalValue_lt digits.tail
          have below' := decimalValue_lt digits'.tail
          rw [sameLength] at below
          have rangeC := of_decide_eq_true (digits c List.mem_cons_self)
          have rangeD := of_decide_eq_true (digits' d List.mem_cons_self)
          have order : c < d ↔ digitValue c < digitValue d := by
            unfold digitValue
            rw [Fin.lt_def]
            omega
          have equal : c = d ↔ digitValue c = digitValue d := by
            unfold digitValue
            rw [Fin.ext_iff]
            omega
          rw [List.cons_lt_cons_iff, inductionHypothesis digits.tail digits'.tail sameLength,
            decimalValue_cons, decimalValue_cons, sameLength, order, equal]
          constructor
          · rintro (smaller | ⟨same, rest⟩)
            · exact leading_lt smaller below _
            · rw [same]
              exact Nat.add_lt_add_left rest _
          · intro less
            rcases Nat.lt_trichotomy (digitValue c) (digitValue d) with smaller | same | greater
            · exact .inl smaller
            · rw [same] at less
              exact .inr ⟨same, Nat.lt_of_add_lt_add_left less⟩
            · exact absurd (Nat.lt_trans less (leading_lt greater below' _)) (Nat.lt_irrefl _)

/-- Leading zeros do not count. -/
theorem decimalValue_dropZeros (s : Text) :
    decimalValue (s.dropWhile fun c => decide (c = codePoint '0')) = decimalValue s := by
  induction s with
  | nil => rfl
  | cons c rest inductionHypothesis =>
      rw [List.dropWhile_cons]
      split
      · rename_i zero
        have isZero : c = codePoint '0' := of_decide_eq_true zero
        rw [inductionHypothesis, decimalValue_cons, isZero]
        have value : digitValue (codePoint '0') = 0 := by decide
        rw [value, Nat.zero_mul, Nat.zero_add]
      · rfl

end Foundation
