import Mathlib.Data.List.Forall2

namespace Foundation

/-!
# Codes that delimit themselves

A code relates values to words, and a value without a word cannot be coded.  It
delimits itself when a word can be told from whatever follows it; then the
words of a sequence, joined, still determine the sequence.
-/

variable {α σ : Type}

/-- A word followed by anything determines its value and what follows. -/
def SelfDelimiting (code : α -> List σ -> Prop) : Prop :=
  forall a b x y r s, code a x -> code b y -> x ++ r = y ++ s -> a = b ∧ r = s

namespace SelfDelimiting

variable {code : α -> List σ -> Prop}

/-- Words of one width delimit themselves. -/
theorem of_width {width : Nat} (wide : forall a x, code a x -> x.length = width)
    (injective : forall a b x, code a x -> code b x -> a = b) : SelfDelimiting code := by
  intro a b x y r s first second same
  have lengths : x.length = y.length := by
    rw [wide a x first, wide b y second]
  rcases List.append_inj same lengths with ⟨rfl, rest⟩
  exact ⟨injective a b x first second, rest⟩

/-- A list behind its length delimits itself. -/
theorem counted {size : Nat -> List σ -> Prop} (sizes : SelfDelimiting size) :
    SelfDelimiting fun (data : List σ) word => exists x, size data.length x ∧ word = x ++ data := by
  rintro data data' _ _ r s ⟨x, first, rfl⟩ ⟨y, second, rfl⟩ same
  rw [List.append_assoc, List.append_assoc] at same
  rcases sizes _ _ _ _ _ _ first second same with ⟨lengths, rest⟩
  exact List.append_inj rest lengths

/-- A sequence of words determines the sequence of values. -/
theorem flatten_injective (delimiting : SelfDelimiting code) (nonempty : forall a, ¬ code a [])
    {as bs : List α} {words words' : List (List σ)} (first : List.Forall₂ code as words)
    (second : List.Forall₂ code bs words') (same : words.flatten = words'.flatten) : as = bs := by
  induction first generalizing bs words' with
  | nil =>
      cases second with
      | nil => rfl
      | @cons b y _ _ coded _ =>
          rw [List.flatten_nil, List.flatten_cons] at same
          rw [(List.append_eq_nil_iff.mp same.symm).1] at coded
          exact absurd coded (nonempty b)
  | @cons a x as words coded _ inductionHypothesis =>
      cases second with
      | nil =>
          rw [List.flatten_nil, List.flatten_cons] at same
          rw [(List.append_eq_nil_iff.mp same).1] at coded
          exact absurd coded (nonempty a)
      | @cons b y bs words' coded' others =>
          rw [List.flatten_cons, List.flatten_cons] at same
          rcases delimiting _ _ _ _ _ _ coded coded' same with ⟨rfl, rest⟩
          rw [inductionHypothesis others rest]

end SelfDelimiting

end Foundation
