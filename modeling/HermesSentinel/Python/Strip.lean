import HermesSentinel.Python.Text

namespace HermesSentinel
namespace Python

/-!
# What stripping takes away

A stripped text is the original without a run of dropped characters on either
side, and it is determined by where it starts and ends.
-/

open Foundation

variable {drop : CodePoint -> Bool}

/-- Every character is a dropped one. -/
def Dropped (drop : CodePoint -> Bool) (s : Text) : Prop :=
  forall c, c ∈ s -> drop c = true

theorem Dropped.append {s t : Text} (left : Dropped drop s) (right : Dropped drop t) :
    Dropped drop (s ++ t) := by
  intro c member
  rcases List.mem_append.mp member with first | second
  · exact left c first
  · exact right c second

theorem dropped_takeWhile (s : Text) : Dropped drop (s.takeWhile drop) := by
  intro c member
  exact List.all_eq_true.mp List.all_takeWhile c member

/-- What is stripped stands before and after what is left. -/
theorem exists_stripBy (drop : CodePoint -> Bool) (s : Text) :
    exists before after, s = before ++ (stripBy drop s ++ after) ∧
      Dropped drop before ∧ Dropped drop after := by
  refine ⟨s.takeWhile drop, ((s.dropWhile drop).reverse.takeWhile drop).reverse, ?_,
    dropped_takeWhile s, ?_⟩
  · have rest : stripBy drop s ++ ((s.dropWhile drop).reverse.takeWhile drop).reverse =
        s.dropWhile drop := by
      rw [stripBy, <- List.reverse_append, List.takeWhile_append_dropWhile, List.reverse_reverse]
    rw [rest, List.takeWhile_append_dropWhile]
  · intro c member
    exact dropped_takeWhile _ c (List.mem_reverse.mp member)

/-- Neither end of the text is a dropped character. -/
def Tight (drop : CodePoint -> Bool) (s : Text) : Prop :=
  (forall c, s.head? = some c -> drop c = false) ∧ forall c, s.getLast? = some c -> drop c = false

theorem dropWhile_tight {s : Text} (rest : Text) (nonempty : s ≠ [])
    (head : forall c, s.head? = some c -> drop c = false) :
    (s ++ rest).dropWhile drop = s ++ rest := by
  rcases List.exists_cons_of_ne_nil nonempty with ⟨c, others, shape⟩
  rw [shape] at head ⊢
  rw [List.cons_append, List.dropWhile_cons_of_neg]
  rw [head c rfl]
  exact Bool.false_ne_true

/-- Runs of dropped characters around a tight text are what is stripped. -/
theorem stripBy_of_tight {before core after : Text} (first : Dropped drop before)
    (last : Dropped drop after) (tight : Tight drop core) (nonempty : core ≠ []) :
    stripBy drop (before ++ (core ++ after)) = core := by
  have reversed : core.reverse ≠ [] := fun empty => nonempty (List.reverse_eq_nil_iff.mp empty)
  have end_tight : forall c, core.reverse.head? = some c -> drop c = false := by
    intro c head
    rw [List.head?_reverse] at head
    exact tight.2 c head
  rw [stripBy, List.dropWhile_append_of_pos first, dropWhile_tight after nonempty tight.1,
    List.reverse_append, List.dropWhile_append_of_pos]
  · have alone := dropWhile_tight [] reversed end_tight
    rw [List.append_nil] at alone
    rw [alone, List.reverse_reverse]
  · intro c member
    exact last c (List.mem_reverse.mp member)

theorem ne_nil_of_notBlank {s : PyStr} (notBlank : isBlank s = false) : s ≠ [] := by
  intro empty
  subst empty
  cases notBlank

/-- A text with a visible character is not blank. -/
theorem isBlank_of_visible {s : PyStr} {c : CodePoint} (member : c ∈ s) (visible : isSpace c = false) :
    isBlank s = false := by
  rcases exists_stripBy isSpace s with ⟨before, after, shape, first, last⟩
  unfold isBlank strip
  apply List.isEmpty_eq_false_iff.mpr
  intro empty
  rw [empty, List.nil_append] at shape
  rw [shape] at member
  have dropped := first.append last c member
  rw [visible] at dropped
  cases dropped

end Python
end HermesSentinel
