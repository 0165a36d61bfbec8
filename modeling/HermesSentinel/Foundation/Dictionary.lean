import Mathlib.Data.List.Nodup

namespace Foundation

/-!
# Dictionaries

A finite map as the list of its entries in the order the keys were first
assigned.  Assigning to a key that is present replaces its value in place.
-/

abbrev Dictionary (κ ν : Type) := List (κ × ν)

namespace Dictionary

variable {κ ν : Type} [DecidableEq κ]

/-- `d[key] = value`. -/
def assign (key : κ) (value : ν) : Dictionary κ ν -> Dictionary κ ν
  | [] => [(key, value)]
  | (other, old) :: rest =>
      if other = key then (key, value) :: rest else (other, old) :: assign key value rest

/-- `d.get(key)`. -/
def get (d : Dictionary κ ν) (key : κ) : Option ν :=
  d.lookup key

theorem get_cons (entry : κ × ν) (rest : Dictionary κ ν) (key : κ) :
    get (entry :: rest) key = if entry.1 = key then some entry.2 else get rest key := by
  unfold get
  by_cases same : entry.1 = key
  · rw [if_pos same, List.lookup_cons, beq_iff_eq.mpr same.symm]
  · rw [if_neg same, List.lookup_cons, beq_false_of_ne (Ne.symm same)]

theorem get_assign (d : Dictionary κ ν) (key : κ) (value : ν) (other : κ) :
    get (assign key value d) other = if key = other then some value else get d other := by
  induction d with
  | nil => exact get_cons (key, value) [] other
  | cons entry rest inductionHypothesis =>
      rcases entry with ⟨own, old⟩
      unfold assign
      by_cases present : own = key
      · rw [if_pos present, get_cons, get_cons, present]
        by_cases same : key = other
        · rw [if_pos same, if_pos same]
        · rw [if_neg same, if_neg same, if_neg same]
      · rw [if_neg present, get_cons, get_cons, inductionHypothesis]
        by_cases same : own = other
        · have different : ¬ key = other := fun equal => present (same.trans equal.symm)
          rw [if_pos same, if_neg different, if_pos same]
        · rw [if_neg same, if_neg same]

/-- A new key is added at the end. -/
theorem assign_new {d : Dictionary κ ν} {key : κ} (new : key ∉ d.map Prod.fst) (value : ν) :
    assign key value d = d ++ [(key, value)] := by
  induction d with
  | nil => rfl
  | cons entry rest inductionHypothesis =>
      rcases entry with ⟨own, old⟩
      rw [List.map_cons, List.mem_cons, not_or] at new
      unfold assign
      rw [if_neg (Ne.symm new.1), inductionHypothesis new.2, List.cons_append]

/-- An entry after an assignment is the one assigned or an earlier one. -/
theorem mem_assign {d : Dictionary κ ν} {key : κ} {value : ν} {entry : κ × ν}
    (member : entry ∈ assign key value d) : entry = (key, value) ∨ entry ∈ d := by
  induction d with
  | nil => exact Or.inl (List.mem_singleton.mp member)
  | cons first rest inductionHypothesis =>
      rcases first with ⟨own, old⟩
      unfold assign at member
      split at member
      · rcases List.mem_cons.mp member with equal | later
        · exact Or.inl equal
        · exact Or.inr (List.mem_cons_of_mem _ later)
      · rcases List.mem_cons.mp member with equal | later
        · exact Or.inr (List.mem_cons.mpr (Or.inl equal))
        · rcases inductionHypothesis later with equal | earlier
          · exact Or.inl equal
          · exact Or.inr (List.mem_cons_of_mem _ earlier)

def keys (d : Dictionary κ ν) : List κ :=
  d.map Prod.fst

/-- `del d[key]`, without an error for a missing key. -/
def erase (key : κ) (d : Dictionary κ ν) : Dictionary κ ν :=
  d.filter fun entry => decide (entry.1 ≠ key)

/-- Two dictionaries are equal, as `==` sees them: in whatever order they were filled. -/
def Same (d d' : Dictionary κ ν) : Prop :=
  forall key, get d key = get d' key

theorem mem_keys_iff (d : Dictionary κ ν) (key : κ) : key ∈ keys d ↔ get d key ≠ none := by
  induction d with
  | nil => exact ⟨fun member => absurd member List.not_mem_nil, fun present => absurd rfl present⟩
  | cons entry rest inductionHypothesis =>
      rw [get_cons, keys, List.map_cons, List.mem_cons]
      by_cases same : entry.1 = key
      · rw [if_pos same]
        exact ⟨fun _ => Option.some_ne_none _, fun _ => Or.inl same.symm⟩
      · rw [if_neg same]
        constructor
        · intro member
          rcases member with equal | member
          · exact absurd equal.symm same
          · exact inductionHypothesis.mp member
        · intro present
          exact Or.inr (inductionHypothesis.mpr present)

theorem get_eq_none {d : Dictionary κ ν} {key : κ} (missing : key ∉ keys d) :
    get d key = none := by
  by_contra present
  exact missing ((mem_keys_iff d key).mpr present)

/-- Filtering keeps the values that pass, where no key is shadowed. -/
theorem get_filter {d : Dictionary κ ν} (distinct : (keys d).Nodup) (keep : κ × ν -> Bool) (key : κ) :
    get (d.filter keep) key = (get d key).filter fun value => keep (key, value) := by
  induction d with
  | nil => rfl
  | cons entry rest inductionHypothesis =>
      rw [keys, List.map_cons, List.nodup_cons] at distinct
      have others := inductionHypothesis distinct.2
      rw [List.filter_cons, get_cons]
      by_cases same : entry.1 = key
      · rw [if_pos same, Option.filter_some, <- same]
        have absent : get rest entry.1 = none := get_eq_none distinct.1
        split
        · rw [get_cons, if_pos rfl]
        · rw [same, others, <- same, absent, Option.filter_none]
      · rw [if_neg same]
        split
        · rw [get_cons, if_neg same]
          exact others
        · exact others

theorem get_erase (d : Dictionary κ ν) (key other : κ) :
    get (erase key d) other = if key = other then none else get d other := by
  induction d with
  | nil => exact (ite_self none).symm
  | cons entry rest inductionHypothesis =>
      rw [erase, List.filter_cons]
      by_cases own : entry.1 = key
      · rw [if_neg (by simpa using own), get_cons]
        have skipped : get (erase key rest) other = _ := inductionHypothesis
        rw [erase] at skipped
        rw [skipped]
        by_cases same : key = other
        · rw [if_pos same, if_pos same]
        · rw [if_neg same, if_neg same, if_neg fun equal => same (own.symm.trans equal)]
      · rw [if_pos (by simpa using own), get_cons, get_cons]
        have skipped : get (erase key rest) other = _ := inductionHypothesis
        rw [erase] at skipped
        rw [skipped]
        by_cases same : entry.1 = other
        · rw [if_pos same, if_pos same, if_neg fun equal => own (same.trans equal.symm)]
        · rw [if_neg same, if_neg same]

theorem mem_keys_assign (d : Dictionary κ ν) (key : κ) (value : ν) (other : κ) :
    other ∈ keys (assign key value d) ↔ key = other ∨ other ∈ keys d := by
  rw [mem_keys_iff, mem_keys_iff, get_assign]
  by_cases same : key = other
  · rw [if_pos same]
    exact ⟨fun _ => Or.inl same, fun _ => Option.some_ne_none _⟩
  · rw [if_neg same, or_iff_right same]

theorem keys_assign_nodup {d : Dictionary κ ν} (distinct : (keys d).Nodup) (key : κ) (value : ν) :
    (keys (assign key value d)).Nodup := by
  by_cases present : key ∈ keys d
  · induction d with
    | nil => exact absurd present List.not_mem_nil
    | cons entry rest inductionHypothesis =>
        rcases entry with ⟨own, old⟩
        rw [keys, List.map_cons, List.nodup_cons] at distinct
        unfold assign
        by_cases same : own = key
        · rw [if_pos same, keys, List.map_cons, List.nodup_cons, <- same]
          exact distinct
        · rw [if_neg same, keys, List.map_cons, List.nodup_cons]
          have later : key ∈ keys rest := (List.mem_cons.mp present).resolve_left (Ne.symm same)
          refine ⟨?_, inductionHypothesis distinct.2 later⟩
          intro member
          rcases (mem_keys_assign rest key value own).mp member with equal | earlier
          · exact same equal.symm
          · exact distinct.1 earlier
  · rw [assign_new present, keys, List.map_append, List.map_singleton]
    exact List.Nodup.append distinct (List.nodup_singleton key)
      (List.disjoint_singleton.mpr present)

end Dictionary
end Foundation
