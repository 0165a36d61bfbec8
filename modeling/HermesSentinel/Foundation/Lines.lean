import Mathlib.Data.List.Count

namespace Foundation

/-!
# Joined and split texts

Parts joined by a separator are found again by splitting exactly when none of
them contains it, and their number already tells.
-/

namespace Lines

variable {α : Type} [DecidableEq α]

theorem length_splitOn (separator : α) (s : List α) :
    (s.splitOn separator).length = s.count separator + 1 := by
  induction s with
  | nil => rfl
  | cons c rest inductionHypothesis =>
      rw [List.splitOn_cons_eq_if_modifyHead, List.count_cons]
      by_cases same : (c == separator) = true
      · rw [if_pos same, if_pos same, List.length_cons, inductionHypothesis]
      · rw [if_neg same, if_neg same, List.length_modifyHead, inductionHypothesis]

/-- Joining puts one separator between each two parts. -/
theorem count_join (separator : α) (first : List α) (rest : List (List α)) :
    ([separator].intercalate (first :: rest)).count separator =
      rest.length + (first :: rest).flatten.count separator := by
  induction rest generalizing first with
  | nil => simp
  | cons second rest inductionHypothesis =>
      have divided : (first :: second :: rest).flatten.count separator =
          first.count separator + (second :: rest).flatten.count separator := by
        rw [List.flatten_cons, List.count_append]
      rw [List.intercalate_cons_cons, List.count_append, List.count_append, inductionHypothesis,
        List.count_singleton_self, List.length_cons, divided]
      omega

theorem split_join {separator : α} {parts : List (List α)} (nonempty : parts ≠ [])
    (free : forall part, part ∈ parts -> separator ∉ part) :
    ([separator].intercalate parts).splitOn separator = parts :=
  List.splitOn_intercalate separator free nonempty

/-- Everything but the separators is in some part. -/
theorem part_of_mem {separator : α} {s : List α} {c : α} (member : c ∈ s) (other : c ≠ separator) :
    exists part, part ∈ s.splitOn separator ∧ c ∈ part := by
  induction s with
  | nil => cases member
  | cons head rest inductionHypothesis =>
      rw [List.splitOn_cons_eq_if_modifyHead]
      rcases List.exists_cons_of_ne_nil (List.splitOn_ne_nil separator rest) with
        ⟨first, parts, shape⟩
      rw [shape] at inductionHypothesis ⊢
      by_cases same : (head == separator) = true
      · rw [if_pos same]
        rcases List.mem_cons.mp member with rfl | later
        · exact absurd (beq_iff_eq.mp same) other
        · rcases inductionHypothesis later with ⟨part, inRest, within⟩
          exact ⟨part, List.mem_cons_of_mem _ inRest, within⟩
      · rw [if_neg same, List.modifyHead_cons]
        rcases List.mem_cons.mp member with rfl | later
        · exact ⟨c :: first, List.mem_cons_self, List.mem_cons_self⟩
        · rcases inductionHypothesis later with ⟨part, inRest, within⟩
          rcases List.mem_cons.mp inRest with rfl | others
          · exact ⟨head :: part, List.mem_cons_self, List.mem_cons_of_mem _ within⟩
          · exact ⟨part, List.mem_cons_of_mem _ others, within⟩

/-- If there are as many lines as parts, no part contains the separator. -/
theorem free_of_length {separator : α} {parts : List (List α)} (nonempty : parts ≠ [])
    (same : (([separator].intercalate parts).splitOn separator).length = parts.length) :
    forall part, part ∈ parts -> separator ∉ part := by
  cases parts with
  | nil => exact absurd rfl nonempty
  | cons first rest =>
      rw [length_splitOn, count_join, List.length_cons] at same
      have none : (first :: rest).flatten.count separator = 0 := by omega
      intro part member within
      exact List.count_eq_zero.mp none (List.mem_flatten_of_mem member within)

/-- Splitting and joining are inverse to each other on parts without the separator. -/
theorem splitOn_eq_iff {separator : α} {s : List α} {parts : List (List α)} (nonempty : parts ≠ []) :
    s.splitOn separator = parts ↔
      s = [separator].intercalate parts ∧ forall part, part ∈ parts -> separator ∉ part := by
  constructor
  · rintro rfl
    have joined : [separator].intercalate (s.splitOn separator) = s :=
      List.intercalate_splitOn separator
    exact ⟨joined.symm, free_of_length nonempty (by rw [joined])⟩
  · rintro ⟨rfl, free⟩
    exact split_join nonempty free

omit [DecidableEq α] in
/-- Joined parts with a separator after the last are parts that each end with one. -/
theorem join_terminated {separator : α} {parts : List (List α)} (nonempty : parts ≠ []) :
    [separator].intercalate parts ++ [separator] = parts.flatMap fun part => part ++ [separator] := by
  induction parts with
  | nil => exact absurd rfl nonempty
  | cons part rest inductionHypothesis =>
      cases rest with
      | nil => simp
      | cons second others =>
          rw [List.intercalate_cons_cons, List.append_assoc,
            inductionHypothesis (List.cons_ne_nil second others), List.flatMap_cons (x := part)]

/-- Parts that each end with the separator are split into these parts and an empty one. -/
theorem splitOn_terminated {separator : α} {parts : List (List α)}
    (free : forall part, part ∈ parts -> separator ∉ part) :
    (parts.flatMap fun part => part ++ [separator]).splitOn separator = parts ++ [[]] := by
  induction parts with
  | nil => rfl
  | cons part parts inductionHypothesis =>
      rw [List.flatMap_cons, List.append_assoc, List.singleton_append,
        List.splitOn_append_cons_self_of_not_mem (free part List.mem_cons_self),
        inductionHypothesis fun other member => free other (List.mem_cons_of_mem _ member),
        List.cons_append]

/-- The text before the first separator and the text after it. -/
def splitFirst (separator : α) (s : List α) : Option (List α × List α) :=
  match s.dropWhile fun c => decide (c ≠ separator) with
  | [] => none
  | _ :: after => some (s.takeWhile fun c => decide (c ≠ separator), after)

theorem splitFirst_eq_some {separator : α} {s before after : List α} :
    splitFirst separator s = some (before, after) ↔
      s = before ++ separator :: after ∧ separator ∉ before := by
  constructor
  · intro found
    have whole := List.takeWhile_append_dropWhile (p := fun c => decide (c ≠ separator)) (l := s)
    unfold splitFirst at found
    cases rest : s.dropWhile (fun c => decide (c ≠ separator)) with
    | nil =>
        rw [rest] at found
        cases found
    | cons head tail =>
        have stops := List.head?_dropWhile_not (fun c => decide (c ≠ separator)) s
        simp only [rest, List.head?_cons, decide_eq_false_iff_not, not_not] at stops
        rw [rest] at found
        cases found
        rw [rest, stops] at whole
        exact ⟨whole.symm, fun member => of_decide_eq_true
          (List.all_eq_true.mp List.all_takeWhile separator member) rfl⟩
  · rintro ⟨rfl, free⟩
    have other : forall c, c ∈ before -> decide (c ≠ separator) = true := fun c member =>
      decide_eq_true fun same => free (same ▸ member)
    unfold splitFirst
    rw [List.dropWhile_append_of_pos other, List.takeWhile_append_of_pos other,
      List.dropWhile_cons_of_neg (by simp), List.takeWhile_cons_of_neg (by simp), List.append_nil]

/-- The text before the last separator and the text after it. -/
def splitLast (separator : α) (s : List α) : Option (List α × List α) :=
  match s.reverse.dropWhile fun c => decide (c ≠ separator) with
  | [] => none
  | _ :: before =>
      some (before.reverse, (s.reverse.takeWhile fun c => decide (c ≠ separator)).reverse)

/-- A last line is found again, whatever is before it. -/
theorem splitLast_join {separator : α} (before : List α) {after : List α} (free : separator ∉ after) :
    splitLast separator (before ++ separator :: after) = some (before, after) := by
  have other : forall c, c ∈ after.reverse -> decide (c ≠ separator) = true := by
    intro c member
    refine decide_eq_true fun same => free ?_
    rw [<- same]
    exact List.mem_reverse.mp member
  have shape : (before ++ separator :: after).reverse =
      after.reverse ++ separator :: before.reverse := by
    rw [List.reverse_append, List.reverse_cons, List.append_assoc, List.singleton_append]
  have dropped : (after.reverse ++ separator :: before.reverse).dropWhile
      (fun c => decide (c ≠ separator)) = separator :: before.reverse := by
    rw [List.dropWhile_append_of_pos other, List.dropWhile_cons_of_neg (by simp)]
  have taken : (after.reverse ++ separator :: before.reverse).takeWhile
      (fun c => decide (c ≠ separator)) = after.reverse := by
    rw [List.takeWhile_append_of_pos other, List.takeWhile_cons_of_neg (by simp), List.append_nil]
  rw [splitLast, shape, dropped, taken, List.reverse_reverse]
  dsimp only
  rw [List.reverse_reverse]

end Lines
end Foundation
